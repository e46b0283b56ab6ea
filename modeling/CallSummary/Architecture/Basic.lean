import CallSummary.Architecture.Layout
import CallSummary.Text.Caseless

/-!
# Architectures

The instruction sets a guest program can be written for. An architecture has a
name, a pointer size, and a register layout; its conventions for calls are
declared elsewhere.

## Main definitions

* `Architecture`: The instruction sets.
* `Architecture.ofName`: The architecture with a name, or the name that nobody
  has.
* `Architecture.register?`, `Architecture.registerAt?`: A register by name or by
  offset.

## Theorems

* `Architecture.mem_all`: The list of architectures is complete.
* `Architecture.ofName_name`: Every architecture is found by its own name.
-/

namespace CallSummary

/-- The instruction set of a guest program. -/
inductive Architecture where
  | amd64
  | x86
  | arm
  | aarch64
  | mips32
deriving DecidableEq

/-- A name that no architecture has. -/
structure UnknownArchitecture where
  name : String
deriving DecidableEq

/-- What is said of a name that no architecture has. -/
def UnknownArchitecture.message (e : UnknownArchitecture) : String :=
  "unknown architecture: " ++ e.name

namespace Architecture

/-- Every architecture, in order. -/
def all : List Architecture :=
  [amd64, x86, arm, aarch64, mips32]

theorem mem_all (arch : Architecture) : arch ∈ all := by
  cases arch <;> decide

/-- The name of the architecture. -/
def name : Architecture → String
  | amd64 => "AMD64"
  | x86 => "x86"
  | arm => "arm"
  | aarch64 => "aarch64"
  | mips32 => "mips"

/-- Further names under which an architecture is known. -/
def aliases : List (String × Architecture) :=
  [("x86_64", amd64), ("mips32", mips32)]

/-- The architecture with the given name or alias, up to the case of ASCII
    letters. -/
def ofName (name : String) : Except UnknownArchitecture Architecture :=
  match all.find? fun arch => Text.sameIgnoringCase arch.name name with
  | some arch => .ok arch
  | none =>
    match aliases.find? fun known => Text.sameIgnoringCase known.1 name with
    | some known => .ok known.2
    | none => .error ⟨name⟩

theorem ofName_name (arch : Architecture) : ofName arch.name = .ok arch := by
  cases arch <;> rfl

/-- The size of a pointer in bytes. -/
def pointerSize : Architecture → Nat
  | amd64 => 8
  | x86 => 4
  | arm => 4
  | aarch64 => 8
  | mips32 => 4

/-- The size of a pointer in bits. -/
def bits (arch : Architecture) : Nat :=
  arch.pointerSize * 8

/-- Where the registers of the architecture are. -/
def layout : Architecture → Layout
  | amd64 => Amd64.layout
  | x86 => X86.layout
  | arm => Arm.layout
  | aarch64 => Aarch64.layout
  | mips32 => Mips32.layout

/-- All registers of the architecture. -/
def registers (arch : Architecture) : List Register :=
  arch.layout.registers

/-- The register that addresses the stack. -/
def stackPointer (arch : Architecture) : Register :=
  arch.layout.stackPointer

/-- The register that holds the address being executed. -/
def instructionPointer (arch : Architecture) : Register :=
  arch.layout.instructionPointer

/-- The first register with the given name, up to the case of ASCII letters. -/
def register? (arch : Architecture) (name : String) : Option Register :=
  arch.registers.find? fun register => Text.sameIgnoringCase register.name name

/-- The first register at the given offset. -/
def registerAt? (arch : Architecture) (offset : Nat) : Option Register :=
  arch.registers.find? fun register => register.offset == offset

/-- The stack pointer is as wide as a pointer. -/
theorem bits_stackPointer (arch : Architecture) : arch.stackPointer.bits = arch.bits := by
  cases arch <;> decide

/-- The instruction pointer is as wide as a pointer. -/
theorem bits_instructionPointer (arch : Architecture) :
    arch.instructionPointer.bits = arch.bits := by
  cases arch <;> decide

/-- Writing the instruction pointer never touches the stack pointer. -/
theorem offset_instructionPointer_ne (arch : Architecture) :
    arch.instructionPointer.offset ≠ arch.stackPointer.offset := by
  cases arch <;> decide

end Architecture

end CallSummary
