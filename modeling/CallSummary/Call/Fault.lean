import CallSummary.Architecture.Basic
import CallSummary.Convention.Basic
import CallSummary.Machine.AccessError

/-!
# Faults

Why a unit of execution can fail: an access to the machine that failed, a
convention or a way back that the registry does not know, a unit that nobody
gave a behaviour, a request that makes no sense, or a run that cannot go on.

## Main definitions

* `Fault`: Every reason for a failed unit.
* `Fault.message`: What is said about it.
-/

namespace CallSummary

/-- A request that makes no sense. -/
inductive InvalidRequest where
  /-- The stack offset of the argument cannot be computed. -/
  | argumentOverflow (index : Nat)
  /-- There is nothing to execute at the address. -/
  | noCode (address : Word)
  | stated (reason : String)
deriving DecidableEq

/-- What is said about a request that makes no sense. -/
def InvalidRequest.message : InvalidRequest → String
  | .argumentOverflow index => "stack offset of argument " ++ toString index ++ " overflows"
  | .noCode address => "no code at " ++ Hex.literal 0 address.toNat
  | .stated reason => reason

/-- Why a run cannot go on. -/
inductive Breakdown where
  /-- An address with a hook gave none when it was asked for. -/
  | lostHook (address : Word)
  /-- Control goes to an address that is not known. -/
  | symbolicTarget (target : Value)
  /-- The machine has not halted within the number of steps. -/
  | stepLimit (steps : Nat)
  | stated (reason : String)
deriving DecidableEq

/-- What is said about a run that cannot go on. -/
def Breakdown.message : Breakdown → String
  | .lostHook address => "lost hook at " ++ Hex.literal 0 address.toNat
  | .symbolicTarget target => "symbolic target " ++ target.render
  | .stepLimit steps => "state did not halt within " ++ toString steps ++ " steps"
  | .stated reason => reason

/-- Why a unit of execution has failed. -/
inductive Fault where
  | access (cause : AccessError)
  /-- The convention does not place arguments on the architecture. -/
  | unsupportedArguments (convention : Option CallingConvention) (architecture : Architecture)
  /-- No register receives return values on the architecture. -/
  | unsupportedReturns (convention : Option CallingConvention) (architecture : Architecture)
  /-- There is no way back to the caller on the architecture. -/
  | unsupportedPlatform (architecture : Architecture)
  | unimplemented (unit : String)
  | invalidArgument (cause : InvalidRequest)
  | internal (cause : Breakdown)
deriving DecidableEq

/-- How a convention is named where there may be none. -/
def CallingConvention.nameOrUnresolved (convention : Option CallingConvention) : String :=
  match convention with
  | some convention => convention.identifier
  | none => "<unresolved>"

/-- What is said about a failed unit. -/
def Fault.message : Fault → String
  | .access cause => cause.message
  | .unsupportedArguments convention architecture =>
    "unsupported calling convention " ++ CallingConvention.nameOrUnresolved convention ++
      " for arguments on " ++ architecture.name
  | .unsupportedReturns convention architecture =>
    "unsupported calling convention " ++ CallingConvention.nameOrUnresolved convention ++
      " for returns on " ++ architecture.name
  | .unsupportedPlatform architecture =>
    "unsupported platform " ++ architecture.name ++ " for return emulation"
  | .unimplemented unit => unit ++ " does not implement its behavior"
  | .invalidArgument cause => "invalid argument: " ++ cause.message
  | .internal cause => "internal error: " ++ cause.message

end CallSummary
