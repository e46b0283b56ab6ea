import CallSummary.Machine.Basic

/-!
# Control Flow

After a unit of execution has run, control goes on behind it, goes back to a
caller, or has come to an end. The unit may have split the machine it ran on:
every copy it has split off is a successor with a flow of its own.

## Main definitions

* `Flow`: Where control goes.
* `Successor`: A machine that was split off, with its flow.
* `Successors`: Everything that execution goes on with.
-/

namespace CallSummary

/-- Where control goes after a unit. -/
inductive Flow where
  /-- On to what comes after the unit. -/
  | next
  /-- Back to the target. -/
  | returnTo (target : Value)
  /-- Nowhere: execution has ended. -/
  | halt
deriving DecidableEq

/-- The long form of a flow. -/
def Flow.describe : Flow → String
  | .next => "NextInstruction"
  | .returnTo target => "Return \x7b target: " ++ target.describe ++ " \x7d"
  | .halt => "Halt"

/-- A machine that was split off, with the flow it goes on with. -/
structure Successor where
  /-- The machine as it was left. -/
  machine : Machine
  /-- Where control goes on that machine. -/
  flow : Flow
deriving DecidableEq

/-- What execution goes on with: the machine itself, and every one split off. -/
structure Successors where
  /-- Where control goes on the machine itself. -/
  flow : Flow
  forks : List Successor
deriving DecidableEq

namespace Successors

/-- How many machines execution goes on with, the one that ran included. -/
def length (successors : Successors) : Nat :=
  1 + successors.forks.length

/-- Whether there is nothing to go on with, which is never so. -/
def isEmpty (successors : Successors) : Bool :=
  successors.length == 0

/-- Whether a machine was split off. -/
def isBranching (successors : Successors) : Bool :=
  !successors.forks.isEmpty

theorem isEmpty_eq_false (successors : Successors) : successors.isEmpty = false := by
  simp [isEmpty, length]

end Successors

end CallSummary
