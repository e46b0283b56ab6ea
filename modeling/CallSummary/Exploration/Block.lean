import CallSummary.Call.Flow
import CallSummary.Convention.Registry
import CallSummary.Machine.Stack

/-!
# Blocks

A block stands for code that has been lifted: a list of instructions on the
machine. They run in order until one halts, or until one fails, which leaves the
machine as the ones before it have left it. A block that runs to its end goes on
at the instruction pointer.

A call leaves its return address where the registry's way back to the caller
looks for it, and on the stack where the registry has none.

## Main definitions

* `Instruction`: One step of a block.
* `Instruction.perform`: What it does to the machine.
* `Block`, `Block.execute`: A list of instructions, and running it.
-/

namespace CallSummary

/-- One step of a block. -/
inductive Instruction where
  | write (register : Register) (word : Word)
  | push (word : Word)
  /-- Call the target, which is to return to the given address. -/
  | call (target returnAddress : Word)
  | jump (target : Word)
  | halt
deriving DecidableEq

/-- Write the address to the instruction pointer, cut to its width. -/
def Machine.jump (machine : Machine) (target : Word) : Outcome Machine AccessError Unit :=
  let ip := machine.architecture.instructionPointer
  machine.writeRegister ip (.constant target ip.bits)

/-- Leave a return address where the way back to the caller looks for it. -/
def Machine.leaveReturn (machine : Machine) (sequence : Option ReturnSequence) (address : Word) :
    Outcome Machine AccessError Unit :=
  let value := Value.constant address machine.architecture.bits
  match sequence with
  | some (.linkRegister register) => machine.writeRegister register value
  | _ => machine.push value

/-- What the instruction does to the machine. Halting is left to the block. -/
def Instruction.perform (registry : Registry) (machine : Machine) :
    Instruction → Outcome Machine AccessError Unit
  | .write register word => machine.writeRegister register (.constant word register.bits)
  | .push word => machine.push (.constant word machine.architecture.bits)
  | .call target returnAddress =>
    -- The jump comes second: a call that cannot leave its return address goes
    -- nowhere.
    let sequence := registry.returnSequence? machine.architecture
    (machine.leaveReturn sequence returnAddress).andThen fun _ machine => machine.jump target
  | .jump target => machine.jump target
  | .halt => .done () machine

/-- A list of instructions. -/
abbrev Block := List Instruction

/-- Run the instructions in order up to the first that halts. -/
def Block.execute (registry : Registry) : Block → Machine → Outcome Machine AccessError Flow
  | [], machine => .done .next machine
  | .halt :: _, machine => .done .halt machine
  | instruction :: rest, machine =>
    (instruction.perform registry machine).andThen fun _ machine =>
      Block.execute registry rest machine

end CallSummary
