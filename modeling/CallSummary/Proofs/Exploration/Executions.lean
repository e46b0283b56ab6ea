import CallSummary.Convention.Builtin
import CallSummary.Proofs.Exploration.StepLimit
import CallSummary.Proofs.Summary.Drawings

/-!
# Executions That Share a Supply

Names are fresh across all the summaries of a run.

An explorer runs many summaries and has one supply of names. Each execution
starts with the supply that the one before it has left, whether that one has
succeeded or not, and blocks in between draw nothing. `SharedBy` is this
relation between a supply, a row of executions, and the supply that is left.
It says nothing about where the executions come from, so it covers summaries
that are run one after the other by hand as well.

What a single execution draws is known from its transcript, and rows of
drawings can be put behind each other. So a row of executions has drawn exactly
the numbers between its two supplies (`draws_of_sharedBy`), and `DrawnOnce`
follows: numbers in order and without a gap, and names without a duplicate.
It takes for granted that the supply does not come to its last number, after
which it would begin again (`Lasts`).

## Main definitions

* `Execution.entry`: The execution as it stands in a transcript.
* `SharedBy`: The executions share a supply.
* `Explorer.execution?`, `Explorer.executions`: The executions of a walk.
* `Lasts`: The supply has numbers enough for the executions.
* `DrawnOnce`: Nothing is drawn twice.

## Theorems

* `runUnit_of_execution`, `names_runUnit_of_none`: An execution is what happens
  at a position.
* `sharedBy_walk`: The executions of a walk share its supply.
* `draws_of_sharedBy`: What executions draw that share a supply.
* `drawnOnce`: Nothing is drawn twice, in a walk or otherwise.
-/

namespace CallSummary

@[simp] theorem Bound.summary_after (bound : Bound) (run : Run) :
    (bound.after run).summary = bound.summary := by
  unfold after
  split
  next => rfl
  next => rfl

/-- The execution as an entry, which has all of its own entries inside. -/
def Execution.entry (execution : Execution) : Entry :=
  .summarized execution.bound.summary.name execution.run.transcript execution.run.result

/-- Each of the executions starts with the supply that the one before it has
    left. The machines they run on are their own. -/
inductive SharedBy : NameSupply → List Execution → NameSupply → Prop
  | nil (names : NameSupply) : SharedBy names [] names
  | cons (bound : Bound) (registry : Registry) (machine : Machine) (names last : NameSupply)
      (rest : List Execution) : SharedBy (bound.execute registry machine names).names rest last →
      SharedBy names (bound.execute registry machine names :: rest) last

namespace Explorer

/-- The execution of the summary that is hooked at the position, if one is and
    it can be bound. -/
def execution? (explorer : Explorer) (position : Position) : Option Execution :=
  match explorer.hooks.dispatch? position.address explorer.registry position.machine.architecture
    position.caller with
  | none => none
  | some binding =>
    match binding.result with
    | .error _ => none
    | .ok bound => some (bound.execute explorer.registry position.machine position.names)

/-- The executions of the first steps from the position, in order. -/
def executions (explorer : Explorer) : (steps : Nat) → Position → List Execution
  | 0, _ => []
  | steps + 1, position =>
    (explorer.execution? position).toList ++
      match explorer.next? position with
      | none => []
      | some next => explorer.executions steps next

/-- What runs at a position is a bound summary, with the machine and the names
    of the position. -/
theorem execution_eq (explorer : Explorer) (position : Position) (execution : Execution)
    (h : explorer.execution? position = some execution) :
    ∃ bound : Bound,
      execution = bound.execute explorer.registry position.machine position.names := by
  unfold execution? at h
  split at h
  next => cases h
  next =>
    split at h
    next => cases h
    next bound _ => exact ⟨bound, (Option.some.inj h).symm⟩

-- Finding out where control goes draws nothing.
theorem names_advance (explorer : Explorer) (position : Position) :
    (explorer.advance position).names = (explorer.runUnit position).names := by
  unfold advance proceed
  cases (explorer.runUnit position).result with
  | error fault => rfl
  | ok flow =>
      simp only
      cases (explorer.runUnit position).machine.target? flow with
      | error cause => rfl
      | ok found =>
          cases found with
          | none => rfl
          | some target =>
              simp only
              cases target.word? with
              | none => rfl
              | some address => rfl

/-- What happens at the position is the execution, and it is written down. -/
theorem runUnit_of_execution (explorer : Explorer) (position : Position) (execution : Execution)
    (h : explorer.execution? position = some execution) :
    (explorer.runUnit position).observed =
        (execution.result.map (·.flow), execution.machine, execution.names) ∧
      ∃ prepared, (explorer.runUnit position).transcript = prepared ++ [execution.entry] := by
  unfold execution? at h
  cases hdispatch : explorer.hooks.dispatch? position.address explorer.registry
    position.machine.architecture position.caller with
  | none => simp only [hdispatch, reduceCtorEq] at h
  | some binding =>
      cases hbound : binding.result with
      | error fault => simp only [hdispatch, hbound, reduceCtorEq] at h
      | ok bound =>
          simp only [hdispatch, hbound, Option.some.injEq] at h
          -- What is dispatched is hooked.
          have hhooked : explorer.hooks.isHooked position.address = true := by
            rw [HookTable.isHooked_eq]
            unfold HookTable.dispatch? at hdispatch
            cases hlookup : explorer.hooks.lookup? position.address with
            | none => simp only [hlookup, Option.map_none, reduceCtorEq] at hdispatch
            | some hook => rfl
          unfold runUnit runHook
          simp only [hhooked, if_true, hdispatch, hbound, ← h]
          refine ⟨rfl, binding.transcript, ?_⟩
          simp only [Execution.entry, Bound.execute, Bound.summary_after]

theorem names_runUnit_of_none (explorer : Explorer) (position : Position)
    (h : explorer.execution? position = none) :
    (explorer.runUnit position).names = position.names := by
  unfold execution? at h
  unfold runUnit runHook runBlock
  by_cases hhooked : explorer.hooks.isHooked position.address = true
  · rw [if_pos hhooked]
    cases hdispatch : explorer.hooks.dispatch? position.address explorer.registry
      position.machine.architecture position.caller with
    | none => simp only [hdispatch]
    | some binding =>
        cases hbound : binding.result with
        | error fault => simp only [hdispatch, hbound]
        | ok bound => simp only [hdispatch, hbound, reduceCtorEq] at h
  · rw [if_neg hhooked]
    cases explorer.blocks[position.address]? with
    | none => rfl
    | some block => rfl

/-- The executions of a walk share its supply. A step without an execution
    leaves the supply as it is. -/
theorem sharedBy_walk (explorer : Explorer) (limit steps : Nat) :
    ∀ position : Position, SharedBy position.names (explorer.executions steps position)
      (explorer.walk limit steps position).names := by
  induction steps with
  | zero => exact fun position => .nil position.names
  | succ steps ih =>
      intro position
      -- The rest of the walk starts with the names that the step has left.
      have hrest : SharedBy (explorer.runUnit position).names
          (match explorer.next? position with
            | none => []
            | some next => explorer.executions steps next)
          (explorer.walk limit (steps + 1) position).names := by
        cases hnext : explorer.next? position with
        | none =>
            rw [explorer.walk_of_next_none limit steps position hnext]
            exact names_advance explorer position ▸ .nil _
        | some next =>
            rw [explorer.walk_of_next_some limit steps position next hnext]
            have hnames := ((explorer.next_eq_some_iff position next).mp hnext).2.2.2
            rw [← names_advance, ← hnames]
            exact ih next
      unfold executions
      cases hexecution : explorer.execution? position with
      | none =>
          rw [← explorer.names_runUnit_of_none position hexecution]
          exact hrest
      | some execution =>
          rcases explorer.execution_eq position execution hexecution with ⟨bound, rfl⟩
          refine .cons bound explorer.registry position.machine position.names _ _ ?_
          have hobserved := (explorer.runUnit_of_execution position _ hexecution).1
          simp only [Visit.observed, Prod.mk.injEq] at hobserved
          rw [← hobserved.2.2]
          exact hrest

end Explorer

/-- Executions that share a supply have drawn exactly the numbers between the
    supply they started with and the one that is left. -/
theorem draws_of_sharedBy (names last : NameSupply) (executions : List Execution)
    (h : SharedBy names executions last) :
    Draws names last (drawings (executions.map Execution.entry)) := by
  induction h with
  | nil names => exact draws_nil names
  | cons bound registry machine names last rest _ ih =>
      have hfirst := bound.summary.program.draws_run ⟨registry, bound.invocation⟩
        (.start machine names)
      exact draws_append _ _ _ _ _ hfirst ih

/-- The supply has a number for everything that the executions draw, and one
    left to go on with. -/
def Lasts (names : NameSupply) (executions : List Execution) : Prop :=
  names.next.toNat + (drawings (executions.map Execution.entry)).length < 2 ^ 64

/-- The numbers of a row of executions are drawn in order and without a gap, all
    its names are distinct, and so are the symbols of its unconstrained
    returns. -/
structure DrawnOnce (names last : NameSupply) (executions : List Execution) : Prop where
  le : names.next ≤ last.next
  numbers : List.Forall₂ Drawing.Shows (drawings (executions.map Execution.entry))
    (List.range' names.next.toNat (last.next.toNat - names.next.toNat))
  fresh : (freshNames (drawings (executions.map Execution.entry))).Nodup
  symbols : (returnedSymbols (executions.map Execution.entry)).Nodup

theorem drawnOnce_of_sharedBy (names last : NameSupply) (executions : List Execution)
    (h : SharedBy names executions last) (hlasts : Lasts names executions) :
    DrawnOnce names last executions := by
  rcases (draws_of_sharedBy names last executions h).interval hlasts with ⟨hlast, hshows⟩
  have hlength : last.next.toNat - names.next.toNat =
      (drawings (executions.map Execution.entry)).length := by
    rw [hlast, Nat.add_sub_cancel_left]
  have hfresh := nodup_freshNames _ _ hshows List.nodup_range'
  refine ⟨?_, ?_, hfresh, hfresh.sublist (sublist_returnedSymbols _)⟩
  · rw [UInt64.le_iff_toNat_le, hlast]
    exact Nat.le_add_right _ _
  · rw [hlength]
    exact hshows

/-- Nothing is drawn twice by executions that share a supply, be they those of
    an exploration or not, as long as its numbers last. The symbols of
    unconstrained returns are found in the transcript by the name that was
    drawn for them. -/
theorem drawnOnce :
    (∀ (names last : NameSupply) (executions : List Execution),
      SharedBy names executions last → Lasts names executions →
        DrawnOnce names last executions) ∧
      (∀ (explorer : Explorer) (machine : Machine) (names : NameSupply) (entry : Word)
        (limit : Nat),
        Lasts names (explorer.executions limit ⟨entry, none, machine, names⟩) →
          DrawnOnce names (explorer.explore machine names entry limit).names
            (explorer.executions limit ⟨entry, none, machine, names⟩)) ∧
      ∀ (setting : Setting) (a : Activation) (register : Register),
        setting.returnRegister = .ok register →
          returnedSymbol? (Summary.returnUnconstrained.program.run setting a).transcript =
            some (NameSupply.numbered "unconstrained_ret" a.names.next.toNat) := by
  refine ⟨drawnOnce_of_sharedBy, ?_, Summary.returnedSymbol_returnUnconstrained⟩
  intro explorer machine names entry limit
  exact drawnOnce_of_sharedBy _ _ _
    (explorer.sharedBy_walk limit limit ⟨entry, none, machine, names⟩)

namespace Bound

/-- A program that draws a name in a fork that gives up, makes a symbol in its
    sibling, and another one by itself. The stems end in numbers. -/
def tangle : Bound where
  summary :=
    { name := "Tangle"
      program :=
        .fork (.ask (.freshName "x_1") fun _ => .fail (.unimplemented "Abandoned")) fun _ =>
          .fork (.inline "ReturnUnconstrained" Summary.returnUnconstrained.program fun _ =>
              .ask (.freshName "x") fun _ => .finish none) fun _ =>
            .ask .drawNumber fun _ =>
              .inline "ReturnUnconstrained" Summary.returnUnconstrained.program fun _ =>
                .finish none }
  invocation := ⟨none, .amd64, none⟩
  status := none

/-- The first of two executions that share a supply. -/
def tangled : Execution :=
  tangle.execute .builtin (.new .amd64) .zero

/-- The second one. -/
def tangledAgain : Execution :=
  tangle.execute .builtin (.withStackPointer .amd64 0x1000) tangled.names

theorem drawnOnce_tangle :
    SharedBy .zero [tangled, tangledAgain] tangledAgain.names ∧
      DrawnOnce .zero tangledAgain.names [tangled, tangledAgain] ∧
      freshNames (drawings ([tangled, tangledAgain].map Execution.entry)) =
        ["x_1_0", "unconstrained_ret_1", "x_2", "unconstrained_ret_4", "x_1_5",
          "unconstrained_ret_6", "x_7", "unconstrained_ret_9"] ∧
      returnedSymbol? (Summary.returnUnconstrained.program.run ⟨.builtin, ⟨none, .amd64, none⟩⟩
        (.start (.new .amd64) .zero)).transcript = some "unconstrained_ret_0" := by
  have hshared : SharedBy .zero [tangled, tangledAgain] tangledAgain.names :=
    .cons tangle .builtin _ _ _ _ (.cons tangle .builtin _ _ _ _ (.nil _))
  have hlasts : Lasts .zero [tangled, tangledAgain] := by
    unfold Lasts
    decide +kernel
  exact ⟨hshared, drawnOnce.1 _ _ _ hshared hlasts, rfl, drawnOnce.2.2 _ _ Amd64.rax rfl⟩

end Bound

end CallSummary
