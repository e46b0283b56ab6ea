/-!
# Calling Conventions

A calling convention names a set of rules that places the arguments of a
function. The rules themselves depend on the architecture too, so a convention
is only a name here.

## Main definitions

* `CallingConvention`: The conventions.
* `CallingConvention.identifier`: The identifier by which a convention is asked
  for.
* `CallingConvention.ofIdentifier`: The convention with an identifier, which is
  matched exactly.

## Theorems

* `CallingConvention.mem_all`: The list of conventions is complete.
* `CallingConvention.ofIdentifier_identifier`: Every convention is found by its
  identifier.
-/

namespace CallSummary

/-- A named set of rules placing arguments and return values. -/
inductive CallingConvention where
  | systemV
  | microsoftX64
  /-- System calls of the architecture. -/
  | syscall
  /-- 32-bit x86 with all arguments on the stack. -/
  | cdecl
  /-- The procedure call standard of 32-bit ARM. -/
  | arm
  /-- The procedure call standard of 64-bit ARM. -/
  | aapcs64
  | mipsO32
deriving DecidableEq

/-- An identifier that no calling convention has. -/
structure UnknownConvention where
  identifier : String
deriving DecidableEq

/-- What is said of an identifier that no calling convention has. -/
def UnknownConvention.message (e : UnknownConvention) : String :=
  "unknown calling convention: " ++ e.identifier

namespace CallingConvention

/-- Every calling convention, in order. -/
def all : List CallingConvention :=
  [systemV, microsoftX64, syscall, cdecl, arm, aapcs64, mipsO32]

theorem mem_all (convention : CallingConvention) : convention ∈ all := by
  cases convention <;> decide

/-- The identifier by which the convention is asked for. -/
def identifier : CallingConvention → String
  | systemV => "systemv_x64"
  | microsoftX64 => "microsoft_x64"
  | syscall => "syscall"
  | cdecl => "cdecl"
  | arm => "arm"
  | aapcs64 => "aapcs64"
  | mipsO32 => "mips-o32"

/-- The title of the convention, as a hook shows it. -/
def title : CallingConvention → String
  | systemV => "SystemV"
  | microsoftX64 => "MicrosoftX64"
  | syscall => "Syscall"
  | cdecl => "Cdecl"
  | arm => "Arm"
  | aapcs64 => "Aapcs64"
  | mipsO32 => "MipsO32"

/-- The convention with exactly the given identifier. -/
def ofIdentifier (identifier : String) : Except UnknownConvention CallingConvention :=
  match all.find? fun convention => convention.identifier == identifier with
  | some convention => .ok convention
  | none => .error ⟨identifier⟩

theorem ofIdentifier_identifier (convention : CallingConvention) :
    ofIdentifier convention.identifier = .ok convention := by
  cases convention <;> rfl

end CallingConvention

end CallSummary
