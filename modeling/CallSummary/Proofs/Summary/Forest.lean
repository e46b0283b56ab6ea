import CallSummary.Proofs.Summary.Frame
import CallSummary.Summary.Program

/-!
# The Forest of a Run

What a run splits off, as a tree.

A run keeps one list of successors and passes it along: a completed fork
appends its own successor and then the list its copy had collected, and a
fork whose body failed drops that list with the copy. The meaning of this is
a forest. The forks a program has completed, in order, are the roots, and
below each are the forks its body has completed.

`Program.evaluate` is the semantics that says so. It works on frames, which
know nothing of forks, takes the forest of a program from the forests of its
parts, and leaves nothing of a body that has failed but the names it has
drawn. `refines_evaluate` shows that a run is the same thing with the forest
listed in preorder, by induction on the program. What each fork of the forest
was is then a question about the evaluation, and `faithful_evaluate` answers
it: its body, run by itself from where it was forked, comes to the same.

## Main definitions

* `Forest`, `Forest.preorder`: Ordered forests, and the listing with every
  root before what is below it.
* `Fork`: A completed fork: what it ran, from where, and what became of it.
* `Program.evaluate`: The semantics of a program on a frame.
* `Run.Refines`: A run and an evaluation that have come to the same.
* `Fork.Faithful`: The body of the fork, on its own, gives the successor.

## Theorems

* `preorder_append`, `map_append`, `length_preorder`: Listing and counting
  forests.
* `refines_evaluate`: A run is the evaluation, with the forest in preorder.
* `faithful_evaluate`: Every fork of the forest is faithful.
-/

namespace CallSummary

/-- Trees in a row. A forest that is not empty has a first root, with the
    trees below it and the trees after it. -/
inductive Forest (α : Type) where
  | empty
  | grow (root : α) (below rest : Forest α)

namespace Forest

variable {α β : Type}

/-- Two rows of trees, one after the other. -/
def append : Forest α → Forest α → Forest α
  | empty, other => other
  | grow root below rest, other => grow root below (rest.append other)

/-- All roots, each before those below it, and the trees in order. -/
def preorder : Forest α → List α
  | empty => []
  | grow root below rest => root :: (below.preorder ++ rest.preorder)

/-- The same trees with other roots. -/
def map (f : α → β) : Forest α → Forest β
  | empty => empty
  | grow root below rest => grow (f root) (below.map f) (rest.map f)

/-- How many roots there are. -/
def size : Forest α → Nat
  | empty => 0
  | grow _ below rest => 1 + below.size + rest.size

/-- The property holds of every root and what is below it. -/
def All (p : α → Forest α → Prop) : Forest α → Prop
  | empty => True
  | grow root below rest => p root below ∧ below.All p ∧ rest.All p

theorem preorder_append (first second : Forest α) :
    (first.append second).preorder = first.preorder ++ second.preorder := by
  induction first with
  | empty => rfl
  | grow root below rest _ ih =>
      simp only [append, preorder, ih, List.cons_append, List.append_assoc]

theorem map_append (f : α → β) (first second : Forest α) :
    (first.append second).map f = (first.map f).append (second.map f) := by
  induction first with
  | empty => rfl
  | grow root below rest _ ih => simp only [append, map, ih]

theorem all_append (p : α → Forest α → Prop) (first second : Forest α)
    (hfirst : first.All p) (hsecond : second.All p) : (first.append second).All p := by
  induction first with
  | empty => exact hsecond
  | grow root below rest _ ih => exact ⟨hfirst.1, hfirst.2.1, ih hfirst.2.2⟩

theorem length_preorder (forest : Forest α) : forest.preorder.length = forest.size := by
  induction forest with
  | empty => rfl
  | grow root below rest ihbelow ihrest =>
      rw [preorder, List.length_cons, List.length_append, ihbelow, ihrest, size]
      omega

theorem size_map (f : α → β) (forest : Forest α) : (forest.map f).size = forest.size := by
  induction forest with
  | empty => rfl
  | grow root below rest ihbelow ihrest => rw [map, size, size, ihbelow, ihrest]

end Forest

/-- A fork whose body has succeeded. -/
structure Fork where
  body : Program
  /-- The frame of the program that forked, at that point. -/
  parent : Frame
  successor : Successor

/-- What a program has come to on a frame. -/
structure Evaluation where
  result : Except Fault (Option Value)
  frame : Frame
  forest : Forest Fork

/-- The frame on which a copy starts: the same machine and names, and no flow
    recorded. -/
def Frame.child (frame : Frame) : Frame :=
  { frame with flow := .next }

/-- The frame with names drawn in between. -/
def Frame.drawn (frame : Frame) (names : NameSupply) : Frame :=
  { frame with names := names }

/-- The evaluation with a fork of the given body in front of what comes after
    it. A copy that has failed leaves nothing. -/
def Evaluation.behind (rest : Evaluation) (body : Program) (parent : Frame)
    (copy : Evaluation) : Evaluation :=
  match copy.result with
  | .ok _ =>
    { rest with
      forest := .grow ⟨body, parent, ⟨copy.frame.machine, copy.frame.flow⟩⟩ copy.forest
        rest.forest }
  | .error _ => rest

/-- The semantics of a program on a frame. -/
def Program.evaluate (setting : Setting) : Program → Frame → Evaluation
  | finish status, frame => ⟨.ok status, frame, .empty⟩
  | fail fault, frame => ⟨.error fault, frame, .empty⟩
  | perform op next, frame =>
    let outcome := op.act setting frame
    (next outcome.result).evaluate setting outcome.state
  | fork body next, frame =>
    let copy := body.evaluate setting frame.child
    -- The names the copy has drawn are used up, whatever becomes of it.
    let rest := (next (copy.result.map fun _ => ())).evaluate setting
      (frame.drawn copy.frame.names)
    rest.behind body frame copy
  | inline _ body next, frame =>
    let inner := body.evaluate setting frame
    let rest := (next inner.result).evaluate setting inner.frame
    { rest with forest := inner.forest.append rest.forest }

namespace Activation

/-- The activation in which a program goes on when a copy has failed: the
    names it drew are used up and the events it reported are reported. -/
def dropping (a copy : Activation) : Activation :=
  { a with
    names := copy.names
    journal := a.journal ++ copy.journal }

/-- The activation in which a program goes on when a copy has succeeded: its
    successor and those of its own forks are taken over as well. -/
def taking (a copy : Activation) : Activation :=
  { a.dropping copy with forks := a.forks ++ ⟨copy.machine, copy.flow⟩ :: copy.forks }

theorem frame_dropping (a copy : Activation) :
    (a.dropping copy).frame = a.frame.drawn copy.names := rfl

theorem frame_taking (a copy : Activation) :
    (a.taking copy).frame = a.frame.drawn copy.names := rfl

end Activation

namespace Program

variable (setting : Setting) (body : Program) (next : Except Fault Unit → Program)

theorem run_fork_error (a : Activation) (fault : Fault)
    (h : (body.run setting a.child).result = .error fault) :
    (fork body next).run setting a =
      ((next (.error fault)).run setting
        (a.dropping (body.run setting a.child).activation)).after
          (.forked (body.run setting a.child).transcript (.error fault)) := by
  simp only [run]
  rw [h, Activation.join_error]
  rfl

theorem run_fork_ok (a : Activation) (status : Option Value)
    (h : (body.run setting a.child).result = .ok status) :
    (fork body next).run setting a =
      ((next (.ok ())).run setting (a.taking (body.run setting a.child).activation)).after
        (.forked (body.run setting a.child).transcript (.ok ())) := by
  simp only [run]
  rw [h, Activation.join_ok]
  rfl

theorem evaluate_fork_error (frame : Frame) (fault : Fault)
    (h : (body.evaluate setting frame.child).result = .error fault) :
    (fork body next).evaluate setting frame =
      (next (.error fault)).evaluate setting
        (frame.drawn (body.evaluate setting frame.child).frame.names) := by
  simp only [evaluate, Evaluation.behind, h]
  rfl

theorem evaluate_fork_ok (frame : Frame) (status : Option Value)
    (h : (body.evaluate setting frame.child).result = .ok status) :
    (fork body next).evaluate setting frame =
      { (next (.ok ())).evaluate setting
          (frame.drawn (body.evaluate setting frame.child).frame.names) with
        forest := .grow ⟨body, frame, ⟨(body.evaluate setting frame.child).frame.machine,
          (body.evaluate setting frame.child).frame.flow⟩⟩
          (body.evaluate setting frame.child).forest
          ((next (.ok ())).evaluate setting
            (frame.drawn (body.evaluate setting frame.child).frame.names)).forest } := by
  simp only [evaluate, Evaluation.behind, h]
  rfl

end Program

/-- The run has come to what the evaluation says, and has appended its forest
    in preorder to the forks that there were before. -/
structure Run.Refines (run : Run) (before : List Successor) (evaluation : Evaluation) :
    Prop where
  result : run.result = evaluation.result
  frame : run.activation.frame = evaluation.frame
  forks : run.activation.forks = before ++ evaluation.forest.preorder.map Fork.successor

namespace Run.Refines

variable {run : Run} {before : List Successor} {evaluation : Evaluation}

theorem machine (h : run.Refines before evaluation) :
    run.activation.machine = evaluation.frame.machine :=
  congrArg Frame.machine h.frame

theorem names (h : run.Refines before evaluation) :
    run.activation.names = evaluation.frame.names :=
  congrArg Frame.names h.frame

theorem flow (h : run.Refines before evaluation) :
    run.activation.flow = evaluation.frame.flow :=
  congrArg Frame.flow h.frame

end Run.Refines

/-- A run refines the evaluation of its program, by induction on the program.
    What had been collected before is carried along at every node. -/
theorem Program.refines_evaluate (setting : Setting) (program : Program) :
    ∀ a : Activation,
      (program.run setting a).Refines a.forks (program.evaluate setting a.frame) := by
  induction program with
  | finish status => exact fun a => ⟨rfl, rfl, (List.append_nil a.forks).symm⟩
  | fail fault => exact fun a => ⟨rfl, rfl, (List.append_nil a.forks).symm⟩
  | perform op next ih =>
      intro a
      rcases op.perform_eq_act setting a with ⟨hresult, hframe, hforks⟩
      have hnext := ih (op.perform setting a).result (op.perform setting a).state
      rw [hframe, hforks, hresult] at hnext
      simp only [run, evaluate, Run.after, hresult]
      exact ⟨hnext.result, hnext.frame, hnext.forks⟩
  | fork body next ihbody ih =>
      intro a
      -- A copy has nothing behind it: the forks it collects are its own forest.
      have hbody : (body.run setting a.child).Refines [] (body.evaluate setting a.frame.child) :=
        ihbody a.child
      cases hresult : (body.evaluate setting a.frame.child).result with
      | error fault =>
          have hnext := ih (.error fault) (a.dropping (body.run setting a.child).activation)
          rw [Activation.frame_dropping, hbody.names] at hnext
          rw [run_fork_error setting body next a fault (hbody.result.trans hresult),
            evaluate_fork_error setting body next a.frame fault hresult]
          exact ⟨hnext.result, hnext.frame, hnext.forks⟩
      | ok status =>
          have hnext := ih (.ok ()) (a.taking (body.run setting a.child).activation)
          rw [Activation.frame_taking, hbody.names] at hnext
          rw [run_fork_ok setting body next a status (hbody.result.trans hresult),
            evaluate_fork_ok setting body next a.frame status hresult]
          refine ⟨hnext.result, hnext.frame, hnext.forks.trans ?_⟩
          simp only [Activation.taking, Forest.preorder]
          rw [hbody.machine, hbody.flow, hbody.forks, List.nil_append, List.map_cons,
            List.map_append, List.append_assoc, List.cons_append]
  | inline name body next ihbody ih =>
      intro a
      have hbody := ihbody a
      have hnext := ih (body.run setting a).result (body.run setting a).activation
      rw [hbody.frame, hbody.forks, hbody.result] at hnext
      simp only [run, evaluate, Run.after, hbody.result]
      refine ⟨hnext.result, hnext.frame, hnext.forks.trans ?_⟩
      rw [Forest.preorder_append, List.map_append, List.append_assoc]

/-- The body of the fork succeeds when it is run by itself, from a copy of the
    machine the program had at the fork and with the names it had there. It
    gives the successor, and the forks below. -/
structure Fork.Faithful (setting : Setting) (fork : Fork) (below : Forest Fork) : Prop where
  result : ∃ status,
    (fork.body.run setting (.start fork.parent.machine fork.parent.names)).result = .ok status
  successor : fork.successor =
    ⟨(fork.body.run setting (.start fork.parent.machine fork.parent.names)).activation.machine,
      (fork.body.run setting (.start fork.parent.machine fork.parent.names)).activation.flow⟩
  forks : (fork.body.run setting (.start fork.parent.machine fork.parent.names)).activation.forks =
    below.preorder.map Fork.successor

-- A body on its own is a run like any other, so it refines its evaluation.
theorem Program.faithful_evaluate (setting : Setting) (program : Program) :
    ∀ frame : Frame, (program.evaluate setting frame).forest.All (Fork.Faithful setting) := by
  induction program with
  | finish status => exact fun _ => trivial
  | fail fault => exact fun _ => trivial
  | perform op next ih => exact fun frame => ih _ _
  | fork body next ihbody ih =>
      intro frame
      cases hresult : (body.evaluate setting frame.child).result with
      | error fault =>
          rw [evaluate_fork_error setting body next frame fault hresult]
          exact ih _ _
      | ok status =>
          rw [evaluate_fork_ok setting body next frame status hresult]
          have hbody : (body.run setting (.start frame.machine frame.names)).Refines []
              (body.evaluate setting frame.child) :=
            body.refines_evaluate setting (.start frame.machine frame.names)
          refine ⟨⟨⟨status, hbody.result.trans hresult⟩, ?_, hbody.forks⟩, ihbody _, ih _ _⟩
          rw [← hbody.frame]
          rfl
  | inline name body next ihbody ih =>
      intro frame
      exact Forest.all_append _ _ _ (ihbody frame) (ih _ _)

end CallSummary
