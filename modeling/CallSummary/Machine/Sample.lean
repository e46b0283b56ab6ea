import CallSummary.Convention.Builtin
import CallSummary.Machine.Stack

/-!
# Sample Machines

Machines in which everything a call can read is there and can be told apart:
every register but the stack pointer holds a symbol of its own name, and the
slots from the stack pointer up hold symbols named after their offsets. A second
sample has in addition a known return address, where the architecture expects
it.

## Main definitions

* `Machine.sample`: Every register and slot is a symbol of its own.
* `Machine.sampleCall`: The same, with a known return address.
-/

namespace CallSummary

namespace Machine

/-- The stack pointer of the samples. -/
def sampleStackPointer : Word := 0x7fff0000

/-- The return address of the sample call. -/
def sampleReturnAddress : Word := 0x40102030

/-- How many slots hold a symbol, from the stack pointer up. -/
def sampleSlots : Nat := 16

/-- The name of the symbol in the slot at an offset. -/
def slotName (offset : Offset) : String :=
  "stack[" ++ toString offset.toInt ++ "]"

/-- The machine in which every register of the list but the stack pointer holds
    a symbol of its name. -/
def nameRegisters (machine : Machine) (registers : List Register) : Machine :=
  registers.foldl
    (fun machine register =>
      if register = machine.architecture.stackPointer then machine
      else (machine.writeRegister register (.symbol register.name register.bits)).state)
    machine

/-- The machine in which the slots at the offsets hold symbols named after
    them. -/
def nameSlots (machine : Machine) (offsets : List Offset) : Machine :=
  offsets.foldl
    (fun machine offset =>
      (machine.writeStack offset (.symbol (slotName offset) machine.architecture.bits)).state)
    machine

/-- The offsets of the named slots: the stack pointer's own and those above
    it. -/
def sampleOffsets (arch : Architecture) : List Offset :=
  (List.range sampleSlots).map fun slot => Int64.ofInt (-(slot * arch.pointerSize : Nat))

/-- A machine whose registers and slots can all be read and told apart. -/
def sample (arch : Architecture) : Machine :=
  ((withStackPointer arch sampleStackPointer).nameRegisters arch.registers).nameSlots
    (sampleOffsets arch)

/-- The sample machine with a known return address, where the architecture's own
    way back to the caller finds it. -/
def sampleCall (arch : Architecture) : Machine :=
  let address := Value.constant sampleReturnAddress arch.bits
  match Registry.builtin.returnSequence? arch with
  | some (.linkRegister register) => ((sample arch).writeRegister register address).state
  | _ => ((sample arch).writeStack 0 address).state

end Machine

end CallSummary
