/-!
# Outcomes

An operation on a state answers or fails, and leaves a state in either case.
Keeping the state beside the answer, and not only inside of a success, is what
lets a statement say what a failure has changed.

Operations are put in a row with `Outcome.andThen`. The second runs on the state
that the first has left, and does not run at all if the first has failed;
nothing is taken back.

## Main definitions

* `Outcome`: An answer or a cause of failure, with the state afterwards.
* `Outcome.andThen`: Two operations in a row.
-/

namespace CallSummary

/-- An answer or a cause of failure, with the state that is left in either
    case. -/
structure Outcome (State Cause Answer : Type) where
  /-- The answer, or why there is none. -/
  result : Except Cause Answer
  state : State

namespace Outcome

variable {State Cause Answer : Type}

/-- The operation has answered. -/
def done (answer : Answer) (state : State) : Outcome State Cause Answer :=
  ⟨.ok answer, state⟩

/-- The operation has failed. -/
def failed (cause : Cause) (state : State) : Outcome State Cause Answer :=
  ⟨.error cause, state⟩

/-- Go on with the answer in the state that was left; a failure stays as it
    is. -/
def andThen {Next : Type} (outcome : Outcome State Cause Answer)
    (next : Answer → State → Outcome State Cause Next) : Outcome State Cause Next :=
  match outcome.result with
  | .ok answer => next answer outcome.state
  | .error cause => failed cause outcome.state

@[simp] theorem result_done (answer : Answer) (state : State) :
    (done answer state : Outcome State Cause Answer).result = .ok answer := rfl

@[simp] theorem state_done (answer : Answer) (state : State) :
    (done answer state : Outcome State Cause Answer).state = state := rfl

@[simp] theorem result_failed (cause : Cause) (state : State) :
    (failed cause state : Outcome State Cause Answer).result = .error cause := rfl

@[simp] theorem state_failed (cause : Cause) (state : State) :
    (failed cause state : Outcome State Cause Answer).state = state := rfl

@[simp] theorem andThen_done {Next : Type} (answer : Answer) (state : State)
    (next : Answer → State → Outcome State Cause Next) :
    (done answer state).andThen next = next answer state := rfl

@[simp] theorem andThen_failed {Next : Type} (cause : Cause) (state : State)
    (next : Answer → State → Outcome State Cause Next) :
    (failed cause state : Outcome State Cause Answer).andThen next = failed cause state := rfl

end Outcome

end CallSummary
