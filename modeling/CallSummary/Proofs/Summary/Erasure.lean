import CallSummary.Proofs.Summary.Asking
import CallSummary.Proofs.Summary.Drawings

/-!
# Programs Without Their Forks

What forks do to the program that forks.

A fork works on a copy, so whatever its body writes, pushes, pops, returns or
halts, the program it stands in goes on with the machine and the flow it had.
Two things come back. The program is told how the body went, and it goes on
with the supply of names that the body has left. A fork is quiet if neither
makes a difference: the body has succeeded and has drawn nothing.

`Program.withoutForks` takes all forks out of a program, those of the summaries
it runs in place included, and puts what came after a success in their place.
`erases_run` compares the run of a program whose forks are quiet with the run
of what is left of it. The two activations agree on the frame at every node, by
induction on the program, although one of them collects successors and the
other does not. No operation looks at these, which is why a frame is all that
has to be carried along.

Only forks that are reached count, and only the outermost of them: what is in
the body of a fork shows in no other way than through its fork.

## Main definitions

* `Program.withoutForks`, `withoutForks`: A program and a transcript without
  forks.
* `QuietForks`: The forks of a transcript have succeeded and drawn nothing.
* `Run.Erases`: A run without forks has come to the same.
* `Execution.Quiet`, `Execution.Erases`: The same for an execution.

## Theorems

* `perform_congr`: Operations agree where frames do.
* `names_of_quiet`: A body that draws nothing leaves the names as they were.
* `erases_run`: A run whose forks are quiet, without them.
* `forksNothing_withoutForks`: Nothing is left that forks.
* `erases_execute`: An execution whose forks are quiet, without them.
-/

namespace CallSummary

/-- The program without its forks. It goes on as after a fork that has
    succeeded. -/
def Program.withoutForks : Program → Program
  | finish status => finish status
  | fail fault => fail fault
  | perform op next => perform op fun reply => (next reply).withoutForks
  | fork _ next => (next (.ok ())).withoutForks
  | inline name body next =>
    inline name body.withoutForks fun reply => (next reply).withoutForks

mutual

/-- What is left of an entry without forks. -/
def Entry.withoutForks : Entry → List Entry
  | .prepared invocation => [.prepared invocation]
  | .performed op reply => [.performed op reply]
  | .forked _ _ => []
  | .summarized name entries result => [.summarized name (CallSummary.withoutForks entries) result]

/-- The transcript without the entries of forks. -/
def withoutForks : List Entry → List Entry
  | [] => []
  | entry :: rest => entry.withoutForks ++ withoutForks rest

end

mutual

/-- The forks of an entry have succeeded and drawn nothing. -/
def Entry.QuietForks : Entry → Prop
  | .prepared _ => True
  | .performed _ _ => True
  | .forked entries result => result = .ok () ∧ drawings entries = []
  | .summarized _ entries _ => CallSummary.QuietForks entries

/-- All forks that a transcript shows have succeeded and drawn nothing. -/
def QuietForks : List Entry → Prop
  | [] => True
  | entry :: rest => entry.QuietForks ∧ QuietForks rest

end

/-- Operations agree where frames do. -/
theorem Operation.perform_congr (setting : Setting) (op : Operation) (a b : Activation)
    (h : b.frame = a.frame) :
    (op.perform setting b).result = (op.perform setting a).result ∧
      (op.perform setting b).state.frame = (op.perform setting a).state.frame := by
  rcases op.perform_eq_act setting a with ⟨hresult, hframe, _⟩
  rcases op.perform_eq_act setting b with ⟨hresult', hframe', _⟩
  rw [hresult, hresult', hframe, hframe', h]
  exact ⟨rfl, rfl⟩

/-- The run without forks has come to the same, and did the same outside of
    forks. -/
structure Run.Erases (run erased : Run) : Prop where
  result : erased.result = run.result
  frame : erased.activation.frame = run.activation.frame
  transcript : erased.transcript = withoutForks run.transcript

namespace Run.Erases

variable {run erased : Run}

theorem machine (h : run.Erases erased) : erased.activation.machine = run.activation.machine :=
  congrArg Frame.machine h.frame

theorem names (h : run.Erases erased) : erased.activation.names = run.activation.names :=
  congrArg Frame.names h.frame

theorem flow (h : run.Erases erased) : erased.activation.flow = run.activation.flow :=
  congrArg Frame.flow h.frame

end Run.Erases

/-- A body that draws nothing leaves the names as they were. -/
theorem Program.names_of_quiet (setting : Setting) (body : Program) (a : Activation)
    (h : drawings (body.run setting a).transcript = []) :
    (body.run setting a).activation.names = a.names := by
  have hnext := (body.draws_run setting a).next
  rw [h, List.length_nil, NameSupply.next_add_zero] at hnext
  exact congrArg NameSupply.mk hnext

/-- A run whose forks are quiet, against the run without them. The second may
    start from another activation as long as the frame is the same. -/
theorem Program.erases_run (setting : Setting) (program : Program) :
    ∀ a b : Activation, b.frame = a.frame → QuietForks (program.run setting a).transcript →
      (program.run setting a).Erases (program.withoutForks.run setting b) := by
  induction program with
  | finish status => exact fun a b hframe _ => ⟨rfl, hframe, rfl⟩
  | fail fault => exact fun a b hframe _ => ⟨rfl, hframe, rfl⟩
  | perform op next ih =>
      intro a b hframe hquiet
      rcases op.perform_congr setting a b hframe with ⟨hresult, hafter⟩
      have hnext := ih (op.perform setting a).result (op.perform setting a).state
        (op.perform setting b).state hafter hquiet.2
      simp only [withoutForks, run, hresult]
      refine ⟨hnext.result, hnext.frame, ?_⟩
      exact congrArg (List.cons _) hnext.transcript
  | fork body next ihbody ih =>
      intro a b hframe hquiet
      cases hresult : (body.run setting a.child).result with
      | error fault =>
          -- A fork that has failed is not quiet.
          rw [run_fork_error setting body next a fault hresult] at hquiet
          cases hquiet.1.1
      | ok status =>
          rw [run_fork_ok setting body next a status hresult] at hquiet ⊢
          have hnames : (body.run setting a.child).activation.names = a.names :=
            body.names_of_quiet setting a.child hquiet.1.2
          have hback : b.frame = (a.taking (body.run setting a.child).activation).frame := by
            rw [Activation.frame_taking, hnames]
            exact hframe
          have hnext := ih (.ok ()) _ b hback hquiet.2
          exact ⟨hnext.result, hnext.frame, hnext.transcript⟩
  | inline name body next ihbody ih =>
      intro a b hframe hquiet
      have hbody := ihbody a b hframe hquiet.1
      have hnext := ih (body.run setting a).result (body.run setting a).activation
        (body.withoutForks.run setting b).activation hbody.frame hquiet.2
      simp only [withoutForks, run, hbody.result]
      refine ⟨hnext.result, hnext.frame, ?_⟩
      simp only [Run.after, CallSummary.withoutForks, Entry.withoutForks, hbody.transcript,
        hnext.transcript, List.cons_append, List.nil_append]

theorem Program.forksNothing_withoutForks (program : Program) :
    program.withoutForks.ForksNothing := by
  intro setting
  induction program with
  | finish status => exact fun _ => rfl
  | fail fault => exact fun _ => rfl
  | perform op next ih => exact fun frame => ih _ _
  | fork body next _ ih => exact fun frame => ih _ frame
  | inline name body next ihbody ih =>
      intro frame
      simp only [withoutForks, evaluate]
      rw [ihbody frame, ih _ _]
      rfl

/-- The summary without the forks of its program. -/
def Summary.withoutForks (summary : Summary) : Summary :=
  { summary with program := summary.program.withoutForks }

/-- The bound summary without the forks of its program. -/
def Bound.withoutForks (bound : Bound) : Bound :=
  { bound with summary := bound.summary.withoutForks }

/-- All forks that the execution has reached have succeeded and drawn
    nothing. -/
def Execution.Quiet (execution : Execution) : Prop :=
  QuietForks execution.run.transcript

/-- The execution without forks has come to the same for the machine it ran on:
    success with the same flow, or the same fault, with the same machine, names
    and exit status. Its operations had the same replies, and it has split off
    nothing. -/
structure Execution.Erases (execution erased : Execution) : Prop where
  result : erased.result = execution.result.map fun successors => ⟨successors.flow, []⟩
  machine : erased.machine = execution.machine
  names : erased.names = execution.names
  flow : erased.run.activation.flow = execution.run.activation.flow
  returned : erased.run.result = execution.run.result
  status : erased.bound.status = execution.bound.status
  transcript : erased.run.transcript = withoutForks execution.run.transcript

/-- The flow of an execution is that of the execution without forks. -/
theorem Execution.Erases.flow_result {execution erased : Execution}
    (h : execution.Erases erased) :
    erased.result.map (·.flow) = execution.result.map (·.flow) := by
  rw [h.result]
  cases execution.result with
  | error fault => rfl
  | ok successors => rfl

-- Which status is left is up to the result of the run.
theorem Bound.status_after (bound other : Bound) (run run' : Run)
    (hstatus : other.status = bound.status) (hresult : run'.result = run.result) :
    (other.after run').status = (bound.after run).status := by
  unfold after
  rw [hresult]
  split
  next => rfl
  next => exact hstatus

/-- An execution whose forks are quiet, against the execution of the summary
    without them. -/
theorem Bound.erases_execute (bound : Bound) (registry : Registry) (machine : Machine)
    (names : NameSupply) (h : (bound.execute registry machine names).Quiet) :
    (bound.execute registry machine names).Erases
      (bound.withoutForks.execute registry machine names) := by
  have hrun := bound.summary.program.erases_run ⟨registry, bound.invocation⟩
    (.start machine names) (.start machine names) rfl h
  have hforks := (bound.summary.program.withoutForks.refines_evaluate
    ⟨registry, bound.invocation⟩ (.start machine names)).forks
  rw [bound.summary.program.forksNothing_withoutForks] at hforks
  refine ⟨?_, hrun.machine, hrun.names, hrun.flow, hrun.result, ?_, hrun.transcript⟩
  · simp only [execute, withoutForks, Summary.withoutForks, Activation.successors]
    rw [hrun.result, hforks, hrun.flow]
    -- Success or fault, the result is made of the flow alone.
    cases (bound.summary.program.run ⟨registry, bound.invocation⟩
      (.start machine names)).result with
    | error fault => rfl
    | ok status => rfl
  · exact bound.status_after bound.withoutForks _ _ rfl hrun.result

end CallSummary
