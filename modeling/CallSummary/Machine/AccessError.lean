import CallSummary.Architecture.RegisterRef
import CallSummary.Value

/-!
# Access Errors

Why a read or write of a machine can fail. A register or slot may hold nothing,
the stack cannot be addressed through a symbol, and what an access asks for may
be impossible: a register that nobody knows, a width that does not match, or an
address outside of the address space.

## Main definitions

* `Misuse`: An access that asks for something impossible.
* `AccessError`: Every reason for a failed access.
* `AccessError.message`: What is said about it.
-/

namespace CallSummary

/-- An access that asks for something impossible. -/
inductive Misuse where
  | unknownRegister (cause : UnknownRegister)
  /-- The register was read, but what it holds has another width. -/
  | registerHolds (register : Register) (actual : Nat)
  /-- A value of another width was to be written to the register. -/
  | registerWidth (register : Register) (actual : Nat)
  /-- A value that is not as wide as a pointer was to be written to a stack
      slot. -/
  | slotWidth (expected actual : Nat)
  /-- The offset leads from the stack pointer out of the address space. -/
  | offsetOverflow (offset : Offset) (stackPointer : Word)
  /-- There is no room below the stack pointer. -/
  | pushOverflow (stackPointer : Word)
  /-- The popped slot is the last one of the address space. -/
  | popOverflow (stackPointer : Word)
  | stated (reason : String)
deriving DecidableEq

/-- What is said about an impossible access. -/
def Misuse.message : Misuse → String
  | .unknownRegister cause => cause.message
  | .registerHolds register actual =>
    "register " ++ register.render ++ " holds " ++ toString actual ++ " bits"
  | .registerWidth register actual =>
    "expected to write " ++ toString register.bits ++ " bits to " ++ register.render ++ ", got " ++
      toString actual ++ " bits"
  | .slotWidth expected actual =>
    "expected stack slot of " ++ toString expected ++ " bits, got " ++ toString actual ++ " bits"
  | .offsetOverflow offset stackPointer =>
    "stack offset " ++ toString offset.toInt ++ " from " ++ Hex.literal 0 stackPointer.toNat ++
      " overflows"
  | .pushOverflow stackPointer => "push overflows stack at " ++ Hex.literal 0 stackPointer.toNat
  | .popOverflow stackPointer => "pop overflows stack at " ++ Hex.literal 0 stackPointer.toNat
  | .stated reason => reason

/-- Why a machine could not be read or written. -/
inductive AccessError where
  | undefinedRegister (register : Register)
  | undefinedStack (address : Word)
  /-- The stack pointer is a symbol and cannot address the stack. -/
  | symbolicStackPointer (value : Value)
  | invalidArguments (cause : Misuse)
  /-- A fault that is nobody's request. -/
  | internal (reason : String)
deriving DecidableEq

/-- What is said about a failed access. -/
def AccessError.message : AccessError → String
  | .undefinedRegister register => "register " ++ register.render ++ " is not defined"
  | .undefinedStack address =>
    "stack slot at " ++ Hex.literal 0 address.toNat ++ " is not defined"
  | .symbolicStackPointer value => "stack pointer is symbolic: " ++ value.describe
  | .invalidArguments cause => "arguments provided are not valid: " ++ cause.message
  | .internal reason => "an internal error occurred: " ++ reason

end CallSummary
