import CallSummary.Convention.Builtin
import CallSummary.Proofs.Summary.Transcript

/-!
# The Path of a Successor

What happened to the machine of a successor, against the flow it is handed on
with.

A machine that was forked off has a past: it is a copy of a machine on which
the program that forked may have returned or halted already, and that machine
may be a copy in its turn. `Path` collects what a transcript shows of it. Its
own part is what the body of the fork recorded, and what it inherits was
recorded before the fork by the programs it descends from.

The flow of a successor is expected to tell the whole path, so that going on
behind the unit means that no control transfer was made on the way. It tells
the own part only. A fork copies the machine, on which a return has popped its
target, and starts with no flow recorded. `flows_run` is the comparison, by
induction on the program: whatever was inherited, the flow is the last one of
the own part. A path is `Truthful` if the expectation holds of it, and
`execute_flows` says which paths are: all but those of forks that record
nothing and inherit something.

## Main definitions

* `Path`, `Path.own`: What happened on the way to a successor.
* `Path.reported`: The flow the successor is handed on with.
* `Path.Truthful`: Going on behind the unit means that nothing was recorded.
* `forkedPaths`: The paths of the completed forks of a transcript, in preorder.
* `Run.paths`: The paths of all successors of a run.

## Theorems

* `ne_next_of_mem_recordedFlows`: What is recorded is a return or a halt.
* `reported_eq_next_iff`, `truthful_iff`: When a path reports nothing, and when
  that is right.
* `flows_run`: The flows of the successors of a run are those its paths report.
* `execute_flows`: The flows of a summary that has succeeded, and which of them
  are right.
* `truthful_fails_after_return`: A fork after a return.
-/

namespace CallSummary

/-- What happened on the way to a successor. -/
structure Path where
  /-- The flows that were recorded before the successor was forked off, by the
  program that forked and by those it descends from. -/
  inherited : List Flow
  /-- What its own body did. -/
  entries : List Entry

namespace Path

/-- The flows that the own body has recorded. -/
def own (path : Path) : List Flow :=
  recordedFlows path.entries

/-- The flow that the successor is handed on with. -/
def reported (path : Path) : Flow :=
  path.own.getLast?.getD .next

/-- Execution goes on behind the unit only if no flow was recorded anywhere on
    the path. -/
def Truthful (path : Path) : Prop :=
  path.inherited ++ path.own ≠ [] → path.reported ≠ .next

end Path

mutual

/-- The paths of the forks that an entry shows as completed, where the given
    flows were recorded before. -/
def Entry.forkedPaths (before : List Flow) : Entry → List Path
  | .prepared _ => []
  | .performed _ _ => []
  | .forked entries (.ok _) => ⟨before, entries⟩ :: CallSummary.forkedPaths before entries
  | .forked _ (.error _) => []
  | .summarized _ entries _ => CallSummary.forkedPaths before entries

/-- The paths of the forks that a transcript shows as completed. What an entry
    has recorded is inherited by the forks of the later ones. -/
def forkedPaths (before : List Flow) : List Entry → List Path
  | [] => []
  | entry :: rest =>
    entry.forkedPaths before ++ forkedPaths (before ++ entry.recordedFlows) rest

end

/-- The paths of all successors of a run, the machine it ran on first. -/
def Run.paths (run : Run) : List Path :=
  ⟨[], run.transcript⟩ :: forkedPaths [] run.transcript

mutual

theorem Entry.ne_next_of_mem_recordedFlows (entry : Entry) (flow : Flow)
    (h : flow ∈ entry.recordedFlows) : flow ≠ .next := by
  cases entry with
  | prepared invocation => simp only [Entry.recordedFlows, List.not_mem_nil] at h
  | forked entries result => simp only [Entry.recordedFlows, List.not_mem_nil] at h
  | summarized name entries result =>
      simp only [Entry.recordedFlows] at h
      exact CallSummary.ne_next_of_mem_recordedFlows entries flow h
  | performed op reply =>
      -- Only a return and a halt that have succeeded record anything.
      unfold Entry.recordedFlows at h
      split at h <;> simp_all

theorem ne_next_of_mem_recordedFlows (entries : List Entry) (flow : Flow)
    (h : flow ∈ recordedFlows entries) : flow ≠ .next := by
  cases entries with
  | nil => simp only [recordedFlows, List.not_mem_nil] at h
  | cons entry rest =>
      simp only [recordedFlows, List.mem_append] at h
      rcases h with hentry | hrest
      · exact entry.ne_next_of_mem_recordedFlows flow hentry
      · exact ne_next_of_mem_recordedFlows rest flow hrest

end

namespace Path

/-- A path reports nothing exactly if its own part has recorded nothing. -/
theorem reported_eq_next_iff (path : Path) : path.reported = .next ↔ path.own = [] := by
  unfold reported
  cases hlast : path.own.getLast? with
  | none =>
      have hown : path.own = [] := List.getLast?_eq_none_iff.mp hlast
      simp only [hown, Option.getD_none]
  | some flow =>
      have hmem : flow ∈ path.own := List.mem_of_getLast? hlast
      have hne := ne_next_of_mem_recordedFlows path.entries flow hmem
      have hown : path.own ≠ [] := List.ne_nil_of_mem hmem
      simp only [Option.getD_some, hne, hown]

/-- What a path does not tell is what it inherits and does not record anew. -/
theorem truthful_iff (path : Path) :
    path.Truthful ↔ (path.own = [] → path.inherited = []) := by
  unfold Truthful
  rw [ne_eq, ne_eq, reported_eq_next_iff, List.append_eq_nil_iff]
  constructor
  · intro h hown
    by_cases hinherited : path.inherited = []
    · exact hinherited
    · exact absurd hown (h fun hboth => hinherited hboth.1)
  · intro h hrecorded hown
    exact hrecorded ⟨h hown, hown⟩

end Path

/-- The flows of the forks of a run are those that their paths report. What had
    been recorded before the run makes no difference, although the paths
    inherit it. -/
theorem Program.flows_run (setting : Setting) (program : Program) :
    ∀ (a : Activation) (before : List Flow),
      (program.run setting a).activation.forks.map Successor.flow =
        a.forks.map Successor.flow ++
          (forkedPaths before (program.run setting a).transcript).map Path.reported := by
  induction program with
  | finish status => exact fun a _ => (List.append_nil _).symm
  | fail fault => exact fun a _ => (List.append_nil _).symm
  | perform op next ih =>
      intro a before
      rcases op.perform_eq_act setting a with ⟨_, _, hforks⟩
      simp only [run, Run.after, forkedPaths, Entry.forkedPaths, List.nil_append]
      rw [ih, hforks]
  | fork body next ihbody ih =>
      intro a before
      cases hresult : (body.run setting a.child).result with
      | error fault =>
          rw [run_fork_error setting body next a fault hresult]
          simp only [Run.after, forkedPaths, Entry.forkedPaths, List.nil_append]
          exact ih (.error fault) (a.dropping (body.run setting a.child).activation) _
      | ok status =>
          -- The copy has no flow recorded, so what its body records is all it reports.
          have hflow : (body.run setting a.child).activation.flow =
              (Path.mk before (body.run setting a.child).transcript).reported :=
            body.flow_run setting a.child
          have hbelow : (body.run setting a.child).activation.forks.map Successor.flow =
              (forkedPaths before (body.run setting a.child).transcript).map Path.reported :=
            ihbody a.child before
          rw [run_fork_ok setting body next a status hresult]
          simp only [Run.after, forkedPaths, Entry.forkedPaths, Entry.recordedFlows,
            List.append_nil]
          rw [ih (.ok ()) (a.taking (body.run setting a.child).activation) before]
          simp only [Activation.taking, List.map_append, List.map_cons, hflow, hbelow,
            List.append_assoc, List.cons_append]
  | inline name body next ihbody ih =>
      intro a before
      simp only [run, Run.after, forkedPaths, Entry.forkedPaths, List.map_append]
      rw [ih, ihbody a before, List.append_assoc]

namespace Bound

/-- The flows of a summary that has succeeded are those that the paths of its
    successors report: each the last one that the own body has recorded. A
    successor goes on behind the unit exactly if its own body has recorded
    nothing, and that is right unless something was recorded before it was
    forked off. -/
theorem execute_flows (bound : Bound) (registry : Registry) (machine : Machine)
    (names : NameSupply) (successors : Successors)
    (hresult : (bound.execute registry machine names).result = .ok successors) :
    successors.flow :: successors.forks.map Successor.flow =
        (bound.execute registry machine names).run.paths.map Path.reported ∧
      ∀ path ∈ (bound.execute registry machine names).run.paths,
        (path.reported = .next ↔ path.own = []) ∧
          (path.Truthful ↔ (path.own = [] → path.inherited = [])) := by
  have hleft := ((bound.execute_result_eq_ok_iff registry machine names successors).mp hresult).2
  have hflow := bound.summary.program.flow_run ⟨registry, bound.invocation⟩ (.start machine names)
  have hforks := bound.summary.program.flows_run ⟨registry, bound.invocation⟩
    (.start machine names) []
  refine ⟨?_, fun path _ => ⟨path.reported_eq_next_iff, path.truthful_iff⟩⟩
  rw [hleft]
  exact List.cons_eq_cons.mpr ⟨hflow, hforks⟩

/-- A program that forks, returns, and forks again. -/
def forkingAround : Bound where
  summary :=
    { name := "ForkingAround"
      program :=
        .fork (.finish none) fun _ =>
          .step .doReturn <| .fork (.finish none) fun _ => .finish none }
  invocation := ⟨none, .amd64, none⟩
  status := none

/-- A machine that has been called, with one slot for the way back. -/
def calledMachine : Machine :=
  ((Machine.withStackPointer .amd64 0x1000).writeStack 0 (.constant 0x12345 64)).state

/-- Of the two forks of the program one is before the return and one after it,
    and both are said to go on behind the unit. -/
theorem execute_flows_forkingAround :
    ∃ successors,
      (forkingAround.execute .builtin calledMachine .zero).result = .ok successors ∧
        successors.flow :: successors.forks.map Successor.flow =
          [.returnTo (.constant 0x12345 64), .next, .next] := by
  refine ⟨_, rfl, ?_⟩
  exact (execute_flows forkingAround .builtin calledMachine .zero _ rfl).1

/-- The path of the second fork has a return on it. The machine shows it, since
    its stack pointer has moved, and the flow does not. -/
theorem truthful_fails_after_return :
    (∃ successors,
        (forkingAround.execute .builtin calledMachine .zero).result = .ok successors) ∧
      ∃ path ∈ (forkingAround.execute .builtin calledMachine .zero).run.paths,
        ¬ path.Truthful := by
  refine ⟨⟨_, rfl⟩, ⟨[.returnTo (.constant 0x12345 64)], []⟩, ?_, ?_⟩
  · exact List.mem_cons_of_mem _ (List.mem_cons_of_mem _ List.mem_cons_self)
  · rw [Path.truthful_iff]
    intro h
    exact absurd (h rfl) (List.cons_ne_nil _ _)

end Bound

end CallSummary
