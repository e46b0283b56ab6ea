import Std.Data.ExtTreeMap
import CallSummary.Machine.AccessError
import CallSummary.Outcome

/-!
# Machines

A machine is the part of a guest program's state that calls touch: registers,
kept whole under their offsets, and pointer-sized stack slots, kept under their
addresses. Both maps hold only what has been written, and two machines are equal
when they hold the same.

A register is read at the width it was written with. Reading through a register
of the same offset and another width fails, and so does writing a value of a
width that is not the register's.

## Main definitions

* `Machine`: Architecture, registers and stack slots.
* `Machine.new`, `Machine.withStackPointer`: A machine that holds nothing, or a
  stack pointer alone.
* `Machine.readRegister`, `Machine.writeRegister`: Access to a register.
* `Machine.resolve`: The register of the machine that a reference means.

## Theorems

* `Machine.readRegister_eq_ok_iff`: When a register can be read, and what is
  found.
* `Machine.writeRegister_state`: What a write leaves, be it refused or done.
-/

namespace CallSummary

/-- The registers and stack slots of a guest program. -/
structure Machine where
  architecture : Architecture
  /-- What has been written to registers, by offset. -/
  registers : Std.ExtTreeMap Nat Value
  /-- What has been written to stack slots, by address. -/
  stack : Std.ExtTreeMap Word Value
deriving DecidableEq

namespace Machine

/-- A machine that holds nothing. -/
def new (arch : Architecture) : Machine where
  architecture := arch
  registers := ∅
  stack := ∅

/-- The value of the register. -/
def readRegister (machine : Machine) (register : Register) : Except AccessError Value :=
  match machine.registers[register.offset]? with
  | none => .error (.undefinedRegister register)
  | some value =>
    -- The offset names the place, so another register may have written it at
    -- another width.
    if value.bits = register.bits then .ok value
    else .error (.invalidArguments (.registerHolds register value.bits))

/-- The machine in which the place at an offset holds the value. -/
def assign (machine : Machine) (offset : Nat) (value : Value) : Machine :=
  { machine with registers := machine.registers.insert offset value }

/-- Write the register; a value of another width is refused. -/
def writeRegister (machine : Machine) (register : Register) (value : Value) :
    Outcome Machine AccessError Unit :=
  if value.bits = register.bits then .done () (machine.assign register.offset value)
  else .failed (.invalidArguments (.registerWidth register value.bits)) machine

/-- The register that the reference means on this machine. -/
def resolve (machine : Machine) (reference : RegisterRef) : Except AccessError Register :=
  (reference.resolve machine.architecture).mapError fun e => .invalidArguments (.unknownRegister e)

/-- The machine in which the stack pointer holds the given address, cut to its
    width. -/
def setStackPointer (machine : Machine) (address : Word) : Machine :=
  let sp := machine.architecture.stackPointer
  machine.assign sp.offset (.constant address sp.bits)

/-- A machine that holds a stack pointer and nothing else. -/
def withStackPointer (arch : Architecture) (address : Word) : Machine :=
  (new arch).setStackPointer address

theorem readRegister_eq_ok_iff {machine : Machine} {register : Register} {value : Value} :
    machine.readRegister register = .ok value ↔
      machine.registers[register.offset]? = some value ∧ value.bits = register.bits := by
  unfold readRegister
  split
  next h => simp [h]
  next found h =>
    rw [h]
    split
    next hbits =>
      constructor
      · rintro ⟨⟩
        exact ⟨rfl, hbits⟩
      · rintro ⟨h, -⟩
        rw [Option.some.inj h]
    next hbits =>
      constructor
      · nofun
      · rintro ⟨h, hvalue⟩
        exact absurd (Option.some.inj h ▸ hvalue) hbits

@[simp] theorem architecture_assign (machine : Machine) (offset : Nat) (value : Value) :
    (machine.assign offset value).architecture = machine.architecture := rfl

@[simp] theorem stack_assign (machine : Machine) (offset : Nat) (value : Value) :
    (machine.assign offset value).stack = machine.stack := rfl

theorem getElem?_registers_assign (machine : Machine) (offset other : Nat) (value : Value) :
    (machine.assign offset value).registers[other]? =
      if offset = other then some value else machine.registers[other]? := by
  simp [assign, Std.ExtTreeMap.getElem?_insert]

@[simp] theorem architecture_setStackPointer (machine : Machine) (address : Word) :
    (machine.setStackPointer address).architecture = machine.architecture := rfl

@[simp] theorem stack_setStackPointer (machine : Machine) (address : Word) :
    (machine.setStackPointer address).stack = machine.stack := rfl

theorem writeRegister_state (machine : Machine) (register : Register) (value : Value) :
    (machine.writeRegister register value).state =
      if value.bits = register.bits then machine.assign register.offset value else machine := by
  unfold writeRegister
  split <;> rfl

end Machine

end CallSummary
