import CallSummary.Proofs.Call.Services
import CallSummary.Summary.Operation

/-!
# The Frame of an Activation

What the operations of a summary depend on.

An activation collects what was split off and what was reported, but no
operation looks at either. The rest of it is its frame: the machine, the
names, and the flow recorded so far. `perform_within` says so in one equation.
Performing an operation in the middle of a longer activation is performing it
in one that has collected nothing, and putting what had been collected around
the state that is left.

So an operation is as much a function of the frame, `Operation.act`, and a
semantics of programs can be given on frames alone.

## Main definitions

* `Frame`, `Activation.frame`: The part of an activation that operations
  depend on.
* `Activation.within`: An activation in the middle of a longer one.
* `Operation.act`: An operation on a frame.

## Theorems

* `mapState_andThen`: Operations in a row commute with a change of the state
  if each of them does.
* `perform_within`: Operations do not look at what has been collected.
* `perform_eq_act`: An operation acts on the frame and keeps the forks.
-/

namespace CallSummary

namespace Outcome

variable {State Other Cause Answer Next : Type}

/-- The outcome with the state changed and the answer as it is. -/
def mapState (change : State → Other) (outcome : Outcome State Cause Answer) :
    Outcome Other Cause Answer :=
  ⟨outcome.result, change outcome.state⟩

theorem mapState_andThen (change : State → Other) (outcome : Outcome State Cause Answer)
    (next : Answer → State → Outcome State Cause Next)
    (next' : Answer → Other → Outcome Other Cause Next)
    (h : ∀ answer state, next' answer (change state) = (next answer state).mapState change) :
    (outcome.mapState change).andThen next' = (outcome.andThen next).mapState change := by
  rcases outcome with ⟨cause | answer, state⟩
  · rfl
  · exact h answer state

end Outcome

/-- What operations depend on, and all they change but for what is reported. -/
structure Frame where
  machine : Machine
  names : NameSupply
  flow : Flow

namespace Activation

/-- The frame of the activation. -/
def frame (a : Activation) : Frame :=
  ⟨a.machine, a.names, a.flow⟩

/-- The activation in the middle of a longer one, in which forks were split
    off and events reported before. -/
def within (a : Activation) (forks : List Successor) (journal : List Event) : Activation :=
  { a with forks := forks, journal := journal ++ a.journal }

theorem report_within (a : Activation) (forks : List Successor) (journal : List Event)
    (event : Event) :
    (a.within forks journal).report event = (a.report event).within forks journal := by
  simp only [within, report, List.append_assoc]

theorem argument_within (a : Activation) (setting : Setting) (index : Nat)
    (forks : List Successor) (journal : List Event) :
    (a.within forks journal).argument setting index =
      (a.argument setting index).mapState (·.within forks journal) := by
  unfold argument
  cases setting.location index with
  | error fault => rfl
  | ok location => simp only [report_within]; rfl

theorem argumentsFrom_within (setting : Setting) (forks : List Successor)
    (journal : List Event) (count : Nat) :
    ∀ (a : Activation) (index : Nat),
      (a.within forks journal).argumentsFrom setting count index =
        (a.argumentsFrom setting count index).mapState (·.within forks journal) := by
  induction count with
  | zero => exact fun _ _ => rfl
  | succ count ih =>
      intro a index
      simp only [argumentsFrom]
      rw [argument_within]
      refine Outcome.mapState_andThen _ _ _ _ fun value middle => ?_
      rw [ih]
      exact Outcome.mapState_andThen _ _ _ _ fun _ _ => rfl

theorem setReturn_within (a : Activation) (setting : Setting) (value : Value)
    (forks : List Successor) (journal : List Event) :
    (a.within forks journal).setReturn setting value =
      (a.setReturn setting value).mapState (·.within forks journal) := by
  unfold setReturn
  cases setting.returnRegister with
  | error fault => rfl
  | ok register => simp only [report_within]; rfl

theorem doReturn_within (a : Activation) (setting : Setting) (forks : List Successor)
    (journal : List Event) :
    (a.within forks journal).doReturn setting =
      (a.doReturn setting).mapState (·.within forks journal) := by
  unfold doReturn
  cases setting.returnSequence with
  | error fault => rfl
  | ok sequence =>
      refine Outcome.mapState_andThen (·.within forks journal)
        (a.onMachine (·.takeReturn sequence)) _ _ fun target middle => ?_
      rw [report_within]
      rfl

end Activation

/-- The activation with this frame that has collected nothing. -/
def Frame.bare (frame : Frame) : Activation :=
  ⟨frame.machine, frame.names, frame.flow, [], []⟩

theorem Activation.bare_within (a : Activation) : a.frame.bare.within a.forks a.journal = a := by
  simp only [frame, Frame.bare, within, List.append_nil]

namespace Operation

/-- What had been split off and reported before makes no difference. -/
theorem perform_within (setting : Setting) (op : Operation) (a : Activation)
    (forks : List Successor) (journal : List Event) :
    op.perform setting (a.within forks journal) =
      (op.perform setting a).mapState (·.within forks journal) := by
  -- The services of a call report. All other operations leave the journal alone.
  cases op with
  | argument index => exact a.argument_within setting index forks journal
  | arguments count => exact Activation.argumentsFrom_within setting forks journal count a 0
  | setReturn value => exact a.setReturn_within setting value forks journal
  | forwardArgument index =>
      simp only [perform, Activation.forwardArgument]
      rw [a.argument_within]
      exact Outcome.mapState_andThen _ _ _ _ fun value middle =>
        middle.setReturn_within setting value forks journal
  | doReturn => exact a.doReturn_within setting forks journal
  | _ => rfl

/-- The operation as a function of the frame. -/
def act (setting : Setting) (op : Operation) (frame : Frame) :
    Outcome Frame Fault op.Reply :=
  (op.perform setting frame.bare).mapState Activation.frame

theorem perform_eq_act (setting : Setting) (op : Operation) (a : Activation) :
    (op.perform setting a).result = (op.act setting a.frame).result ∧
      (op.perform setting a).state.frame = (op.act setting a.frame).state ∧
      (op.perform setting a).state.forks = a.forks := by
  have hperform := perform_within setting op a.frame.bare a.forks a.journal
  rw [a.bare_within] at hperform
  rw [hperform]
  exact ⟨rfl, rfl, rfl⟩

end Operation

end CallSummary
