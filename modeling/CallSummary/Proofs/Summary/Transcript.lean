import CallSummary.Proofs.Summary.Binding
import CallSummary.Proofs.Summary.Forest

/-!
# Successors and Transcripts

The successors of a summary, read off what it did.

A transcript has one entry for each node of the program that was run, with
the entries of bodies inside. It shows which forks were completed and which
flows were recorded, without a look at any activation: a fork is completed if
its entry has no fault, what happened inside counts only then, and a flow is
recorded by a return or a halt that has succeeded outside of every fork.

`forest_evaluate` and `flow_run` compare the two readings with what the run
has collected. Both are inductions on the program, and both follow the run
through the same cases of a fork. `execute_forks` puts them together with the
forest of the run: it says of a summary that has succeeded what it hands on,
in which order, and how much.

## Main definitions

* `completedForks`, `recordedFlows`: What a transcript shows.
* `Bound.evaluation`: The evaluation of a bound summary.

## Theorems

* `forest_evaluate`: The forest has the shape the transcript shows.
* `flow_perform`, `flow_run`: The flow is the last one the transcript shows.
* `execute_forks`: The successors of a summary that has succeeded.
-/

namespace CallSummary

mutual

/-- The forks that an entry shows as completed. What a body did shows in its
    own entries, and counts only if the body has succeeded; a summary that was
    run in place is part of the program. -/
def Entry.completedForks : Entry → Forest Unit
  | .prepared _ => .empty
  | .performed _ _ => .empty
  | .forked entries (.ok _) => .grow () (CallSummary.completedForks entries) .empty
  | .forked _ (.error _) => .empty
  | .summarized _ entries _ => CallSummary.completedForks entries

/-- The forks that a transcript shows as completed, in order. -/
def completedForks : List Entry → Forest Unit
  | [] => .empty
  | entry :: rest => entry.completedForks.append (completedForks rest)

end

mutual

/-- The flows that an entry shows as recorded: by a return or a halt that has
    succeeded, and not in the body of a fork. -/
def Entry.recordedFlows : Entry → List Flow
  | .performed .doReturn (.ok target) => [.returnTo target]
  | .performed .halt (.ok _) => [.halt]
  | .performed _ _ => []
  | .summarized _ entries _ => CallSummary.recordedFlows entries
  | .forked _ _ => []
  | .prepared _ => []

/-- The flows that a transcript shows as recorded, in order. -/
def recordedFlows : List Entry → List Flow
  | [] => []
  | entry :: rest => entry.recordedFlows ++ recordedFlows rest

end

/-- The forest of the evaluation is the one that the transcript of the run
    shows. -/
theorem Program.forest_evaluate (setting : Setting) (program : Program) :
    ∀ a : Activation, (program.evaluate setting a.frame).forest.map (fun _ => ()) =
      completedForks (program.run setting a).transcript := by
  induction program with
  | finish status => exact fun _ => rfl
  | fail fault => exact fun _ => rfl
  | perform op next ih =>
      intro a
      rcases op.perform_eq_act setting a with ⟨hresult, hframe, _⟩
      have hnext := ih (op.perform setting a).result (op.perform setting a).state
      rw [hframe, hresult] at hnext
      simp only [run, evaluate, Run.after, completedForks, Entry.completedForks, Forest.append,
        hresult]
      exact hnext
  | fork body next ihbody ih =>
      intro a
      have hbody : (body.run setting a.child).Refines [] (body.evaluate setting a.frame.child) :=
        body.refines_evaluate setting a.child
      cases hresult : (body.evaluate setting a.frame.child).result with
      | error fault =>
          -- The forks inside show in the entry of the fork and in no forest.
          have hnext := ih (.error fault) (a.dropping (body.run setting a.child).activation)
          rw [Activation.frame_dropping, hbody.names] at hnext
          rw [run_fork_error setting body next a fault (hbody.result.trans hresult),
            evaluate_fork_error setting body next a.frame fault hresult]
          exact hnext
      | ok status =>
          have hnext := ih (.ok ()) (a.taking (body.run setting a.child).activation)
          rw [Activation.frame_taking, hbody.names] at hnext
          rw [run_fork_ok setting body next a status (hbody.result.trans hresult),
            evaluate_fork_ok setting body next a.frame status hresult]
          simp only [Run.after, Forest.map, completedForks, Entry.completedForks, Forest.append]
          rw [hnext]
          congr 1
          exact ihbody a.child
  | inline name body next ihbody ih =>
      intro a
      have hbody := body.refines_evaluate setting a
      have hnext := ih (body.run setting a).result (body.run setting a).activation
      rw [hbody.frame, hbody.result] at hnext
      simp only [run, evaluate, Run.after, completedForks, Entry.completedForks, hbody.result]
      rw [Forest.map_append, ihbody a, hnext]

/-- An operation records the flow that its entry shows, or none. -/
theorem Operation.flow_perform (setting : Setting) (op : Operation) (a : Activation) :
    (op.perform setting a).state.flow =
      (Entry.performed op (op.perform setting a).result).recordedFlows.getLast?.getD a.flow := by
  have hextends : ∀ after : Activation, a.Extends after → after.flow = a.flow := by
    rintro after ⟨events, rfl⟩
    rfl
  have hset : ∀ (b : Activation) (value : Value),
      (b.setReturn setting value).state.flow = b.flow := by
    intro b value
    unfold Activation.setReturn
    cases setting.returnRegister with
    | error fault => rfl
    | ok register => rfl
  cases op with
  | argument index => exact hextends _ (a.argument_extends setting index)
  | arguments count => exact hextends _ (Activation.argumentsFrom_extends setting count a 0)
  | setReturn value => exact hset a value
  | forwardArgument index =>
      refine Outcome.state_andThen _ _ (fun after : Activation => after.flow = a.flow) ?_ ?_
      · exact hextends _ (a.argument_extends setting index)
      · intro value middle hmiddle
        exact (hset middle value).trans hmiddle
  | doReturn =>
      show (a.doReturn setting).state.flow = (Entry.recordedFlows (.performed .doReturn
        (a.doReturn setting).result)).getLast?.getD a.flow
      cases hsequence : setting.returnSequence with
      | error fault => rw [a.doReturn_of_unknown setting fault hsequence]; rfl
      | ok sequence =>
          rcases htake : a.machine.takeReturn sequence with ⟨cause | target, machine⟩
          · rw [a.doReturn_of_failed setting sequence cause machine hsequence htake]
            rfl
          · rw [a.doReturn_of_done setting sequence target machine hsequence htake]
            rfl
  | _ => rfl

/-- The flow of a run is the last one that its transcript shows, or the one
    it started with. -/
theorem Program.flow_run (setting : Setting) (program : Program) :
    ∀ a : Activation, (program.run setting a).activation.flow =
      (recordedFlows (program.run setting a).transcript).getLast?.getD a.flow := by
  -- The last of two rows in a row is the last of the second, if it has one.
  have hlast : ∀ (first second : List Flow) (flow : Flow),
      (first ++ second).getLast?.getD flow = second.getLast?.getD (first.getLast?.getD flow) := by
    intro first second flow
    rw [List.getLast?_append]
    cases second.getLast? with
    | none => rfl
    | some last => rfl
  induction program with
  | finish status => exact fun _ => rfl
  | fail fault => exact fun _ => rfl
  | perform op next ih =>
      intro a
      simp only [run, Run.after, recordedFlows]
      rw [ih, hlast, op.flow_perform setting a]
  | fork body next ihbody ih =>
      intro a
      cases hresult : (body.run setting a.child).result with
      | error fault =>
          rw [run_fork_error setting body next a fault hresult]
          exact ih (.error fault) (a.dropping (body.run setting a.child).activation)
      | ok status =>
          rw [run_fork_ok setting body next a status hresult]
          exact ih (.ok ()) (a.taking (body.run setting a.child).activation)
  | inline name body next ihbody ih =>
      intro a
      simp only [run, Run.after, recordedFlows, Entry.recordedFlows]
      rw [ih, hlast, ihbody]

namespace Bound

/-- What is fixed while the bound summary runs. -/
def setting (bound : Bound) (registry : Registry) : Setting :=
  ⟨registry, bound.invocation⟩

/-- The evaluation of the bound summary on a machine. -/
def evaluation (bound : Bound) (registry : Registry) (machine : Machine) (names : NameSupply) :
    Evaluation :=
  bound.summary.program.evaluate (bound.setting registry) ⟨machine, names, .next⟩

/-- A summary that succeeds hands on the forks it has completed, in preorder
    and nothing else; each is what its body gives by itself where it was
    forked, and the flow is the last one that was recorded outside of forks. -/
theorem execute_forks (bound : Bound) (registry : Registry) (machine : Machine)
    (names : NameSupply) (successors : Successors)
    (hresult : (bound.execute registry machine names).result = .ok successors) :
    (bound.execute registry machine names).run.Refines []
        (bound.evaluation registry machine names) ∧
      successors.forks =
        (bound.evaluation registry machine names).forest.preorder.map Fork.successor ∧
      (bound.evaluation registry machine names).forest.All
        (Fork.Faithful (bound.setting registry)) ∧
      (bound.evaluation registry machine names).forest.map (fun _ => ()) =
        completedForks (bound.execute registry machine names).run.transcript ∧
      successors.length =
        1 + (completedForks (bound.execute registry machine names).run.transcript).size ∧
      successors.flow =
        (recordedFlows (bound.execute registry machine names).run.transcript).getLast?.getD
          .next := by
  have hrefines : (bound.execute registry machine names).run.Refines []
      (bound.evaluation registry machine names) :=
    bound.summary.program.refines_evaluate (bound.setting registry) (.start machine names)
  have hshape : (bound.evaluation registry machine names).forest.map (fun _ => ()) =
      completedForks (bound.execute registry machine names).run.transcript :=
    bound.summary.program.forest_evaluate (bound.setting registry) (.start machine names)
  have hflow := bound.summary.program.flow_run (bound.setting registry) (.start machine names)
  have hleft := ((bound.execute_result_eq_ok_iff registry machine names successors).mp hresult).2
  have hforks : successors.forks =
      (bound.evaluation registry machine names).forest.preorder.map Fork.successor := by
    rw [hleft]
    exact hrefines.forks
  refine ⟨hrefines, hforks, Program.faithful_evaluate _ _ _, hshape, ?_, ?_⟩
  · rw [Successors.length, hforks, List.length_map, Forest.length_preorder, ← hshape,
      Forest.size_map]
  · rw [hleft]
    exact hflow

/-- A program with a fork inside a fork, and after that a fork that completes
    one of its own and then gives up. -/
def branching : Bound where
  summary :=
    { name := "Branching"
      program :=
        .fork (.fork (.ask .drawNumber fun _ => .finish none) fun _ => .step .halt (.finish none))
          fun _ => .fork (.fork (.finish none) fun _ => .fail (.unimplemented "Abandoned"))
            fun _ => .step .halt (.finish none) }
  invocation := ⟨none, .amd64, none⟩
  status := none

theorem execute_forks_branching :
    ∃ successors, (branching.execute .empty (.new .amd64) .zero).result = .ok successors ∧
      successors.forks = [⟨.new .amd64, .halt⟩, ⟨.new .amd64, .next⟩] ∧
      successors.length = 3 ∧ successors.flow = .halt := by
  refine ⟨_, rfl, ?_, ?_, ?_⟩
  · exact (execute_forks branching .empty (.new .amd64) .zero _ rfl).2.1
  · exact (execute_forks branching .empty (.new .amd64) .zero _ rfl).2.2.2.2.1
  · exact (execute_forks branching .empty (.new .amd64) .zero _ rfl).2.2.2.2.2

end Bound

end CallSummary
