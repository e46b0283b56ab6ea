import CallSummary.Call.Activation

/-!
# Operations of a Summary

The steps a summary is made of: accesses to the machine, draws from the supply
of names, and the services of the call, which know where arguments and return
values are. Each has a reply of its own type. An operation can fail, and then
its reply is the fault.

The registers of an operation are references, since a summary can be written
down before it is known which machine it will run on. They are resolved when the
operation is performed.

## Main definitions

* `Operation`: The operations.
* `Operation.Reply`: What an operation answers with.
* `Operation.perform`: Perform an operation.
-/

namespace CallSummary

/-- A step of a summary. -/
inductive Operation where
  | readRegister (reference : RegisterRef)
  | writeRegister (reference : RegisterRef) (value : Value)
  | readStack (offset : Offset)
  | writeStack (offset : Offset) (value : Value)
  | push (value : Value)
  | pop
  | stackPointer
  /-- Draw a number from the supply of names. -/
  | drawNumber
  /-- The number that is drawn next. -/
  | peekNumber
  | freshName (stem : String)
  | argument (index : Nat)
  | arguments (count : Nat)
  | placement
  | returnRegister
  | setReturn (value : Value)
  /-- Make an argument the return value. -/
  | forwardArgument (index : Nat)
  | doReturn
  | halt
  | flow
  | invocation
  | snapshot
  | raise (fault : Fault)
deriving DecidableEq

namespace Operation

/-- The type of what an operation answers with. -/
abbrev Reply : Operation → Type
  | readRegister _ => Value
  | writeRegister _ _ => Unit
  | readStack _ => Value
  | writeStack _ _ => Unit
  | push _ => Unit
  | pop => Value
  | stackPointer => Word
  | drawNumber => Word
  | peekNumber => Word
  | freshName _ => String
  | argument _ => Value
  | arguments _ => List Value
  | placement => Placement
  | returnRegister => Register
  | setReturn _ => Unit
  | forwardArgument _ => Unit
  | doReturn => Value
  | halt => Unit
  | flow => Flow
  | invocation => Invocation
  | snapshot => Machine
  | raise _ => Unit

/-- Perform the operation. -/
def perform (setting : Setting) :
    (op : Operation) → Activation → Outcome Activation Fault op.Reply
  | readRegister reference, a =>
    a.fromMachine fun machine => machine.resolve reference >>= machine.readRegister
  | writeRegister reference value, a =>
    a.onMachine fun machine =>
      Outcome.andThen ⟨machine.resolve reference, machine⟩ fun register machine =>
        machine.writeRegister register value
  | readStack offset, a => a.fromMachine (·.readStack offset)
  | writeStack offset value, a => a.onMachine (·.writeStack offset value)
  | push value, a => a.onMachine (·.push value)
  | pop, a => a.onMachine (·.pop)
  | stackPointer, a => a.fromMachine (·.readStackPointer)
  | drawNumber, a => .done a.names.draw.1 { a with names := a.names.draw.2 }
  | peekNumber, a => .done a.names.next a
  | freshName stem, a => .done (a.names.fresh stem).1 { a with names := (a.names.fresh stem).2 }
  | argument index, a => a.argument setting index
  | arguments count, a => a.arguments setting count
  | placement, a => ⟨setting.placement, a⟩
  | returnRegister, a => ⟨setting.returnRegister, a⟩
  | setReturn value, a => a.setReturn setting value
  | forwardArgument index, a => a.forwardArgument setting index
  | doReturn, a => a.doReturn setting
  | halt, a => .done () a.halt
  | flow, a => .done a.flow a
  | invocation, a => .done setting.invocation a
  | snapshot, a => .done a.machine a
  | raise fault, a => .failed fault a

end Operation

end CallSummary
