import CallSummary.Proofs.Exploration.Executions
import CallSummary.Proofs.Summary.Erasure

/-!
# Forks Do Not Interfere

An exploration cannot tell what is in a quiet fork.

An explorer follows the machine a summary ran on and leaves its successors
alone. What it sees of a summary is a result, a machine and the names that are
left, and all three are those of the summary without its forks, if the forks
are quiet. So two programs whose summaries are the same without their forks are
explored in the same way, step by step, as long as the forks that are reached
are quiet in both.

What is compared is a single visit first (`observed_runUnit`). It is a function
of the hook without its forks, since binding looks at the preparation and the
convention alone. `observed_walk` carries it along a walk, by induction on the
number of steps: equal visits go on at equal positions.

## Main definitions

* `Hook.withoutForks`: The hook without the forks of its summary.
* `Hook.visit`: What a hook does at a position.
* `Explorer.SameOutsideForks`: The explorers differ in forks alone.

## Theorems

* `visit_withoutForks`: What a hook does whose forks are quiet.
* `observed_runUnit`, `observed_walk`: Visits and walks of explorers that
  differ in forks alone.
* `forks_indistinguishable`: Quiet forks make no difference to an execution,
  nor to an exploration.
-/

namespace CallSummary

/-- The hook without the forks of its summary. -/
def Hook.withoutForks (hook : Hook) : Hook :=
  { hook with summary := hook.summary.withoutForks }

/-- The execution of the hook at a position, if its preparation succeeds. -/
def Hook.execution (hook : Hook) (registry : Registry) (position : Position) : Execution :=
  (Bound.mk hook.summary (registry.invocation position.machine.architecture position.caller
    hook.convention) none).execute registry position.machine position.names

/-- What the hook does at a position: the result, the machine and the names that
    are left. -/
def Hook.visit (hook : Hook) (registry : Registry) (position : Position) :
    Except Fault Flow × Machine × NameSupply :=
  match hook.summary.prepare (registry.invocation position.machine.architecture position.caller
    hook.convention) with
  | .error fault => (.error fault, position.machine, position.names)
  | .ok _ =>
    let execution := hook.execution registry position
    (execution.result.map (·.flow), execution.machine, execution.names)

/-- A hook does the same without the forks of its summary, if they are quiet
    where it is executed. -/
theorem Hook.visit_withoutForks (hook : Hook) (registry : Registry) (position : Position)
    (h : ∀ entries, hook.summary.prepare (registry.invocation position.machine.architecture
      position.caller hook.convention) = .ok entries → (hook.execution registry position).Quiet) :
    hook.withoutForks.visit registry position = hook.visit registry position := by
  unfold visit
  simp only [withoutForks, Summary.withoutForks]
  cases hprepare : hook.summary.prepare (registry.invocation position.machine.architecture
    position.caller hook.convention) with
  | error fault => rfl
  | ok entries =>
      have herases : (hook.execution registry position).Erases
          (hook.withoutForks.execution registry position) :=
        Bound.erases_execute _ registry position.machine position.names (h entries hprepare)
      simp only [← herases.flow_result, ← herases.machine, ← herases.names]
      rfl

namespace Explorer

/-- The explorers have the same blocks and the same registry, and their hooks
    are the same without their forks. -/
structure SameOutsideForks (first second : Explorer) : Prop where
  blocks : second.blocks = first.blocks
  registry : second.registry = first.registry
  hooks : ∀ address, (second.hooks.lookup? address).map Hook.withoutForks =
    (first.hooks.lookup? address).map Hook.withoutForks

theorem observed_runHook (explorer : Explorer) (position : Position) (hook : Hook)
    (h : explorer.hooks.lookup? position.address = some hook) :
    (explorer.runHook position).observed = hook.visit explorer.registry position := by
  unfold runHook HookTable.dispatch? Hook.visit
  simp only [h, Option.map_some, Summary.bind_result]
  cases hook.summary.prepare (explorer.registry.invocation position.machine.architecture
    position.caller hook.convention) with
  | error fault => rfl
  | ok entries => rfl

/-- A hook whose preparation succeeds is executed. -/
theorem execution_of_hook (explorer : Explorer) (position : Position) (hook : Hook)
    (entries : List Entry) (h : explorer.hooks.lookup? position.address = some hook)
    (hprepare : hook.summary.prepare (explorer.registry.invocation position.machine.architecture
      position.caller hook.convention) = .ok entries) :
    explorer.execution? position = some (hook.execution explorer.registry position) := by
  unfold execution? HookTable.dispatch?
  simp only [h, Option.map_some, Summary.bind_result, hprepare]
  rfl

/-- Where the forks are quiet, what happens at a position is up to the hook
    without its forks. -/
theorem observed_runHook_withoutForks (explorer : Explorer) (position : Position) (hook : Hook)
    (h : explorer.hooks.lookup? position.address = some hook)
    (hquiet : ∀ execution, explorer.execution? position = some execution → execution.Quiet) :
    (explorer.runHook position).observed =
      hook.withoutForks.visit explorer.registry position := by
  rw [explorer.observed_runHook position hook h]
  refine (hook.visit_withoutForks explorer.registry position ?_).symm
  intro entries hprepare
  exact hquiet _ (explorer.execution_of_hook position hook entries h hprepare)

/-- A visit of explorers that differ in forks alone. -/
theorem observed_runUnit (first second : Explorer) (position : Position)
    (h : first.SameOutsideForks second)
    (hfirst : ∀ execution, first.execution? position = some execution → execution.Quiet)
    (hsecond : ∀ execution, second.execution? position = some execution → execution.Quiet) :
    (second.runUnit position).observed = (first.runUnit position).observed := by
  have hhooks := h.hooks position.address
  unfold runUnit
  rw [HookTable.isHooked_eq, HookTable.isHooked_eq]
  cases hlookup : first.hooks.lookup? position.address with
  | none =>
      have hother : second.hooks.lookup? position.address = none := by
        rw [hlookup, Option.map_none, Option.map_eq_none_iff] at hhooks
        exact hhooks
      -- Neither address is hooked, and the blocks are the same.
      simp only [hother, Option.isSome_none, Bool.false_eq_true, if_false]
      unfold runBlock
      rw [h.blocks, h.registry]
  | some hook =>
      rw [hlookup, Option.map_some, Option.map_eq_some_iff] at hhooks
      rcases hhooks with ⟨other, hother, hsame⟩
      simp only [hother, Option.isSome_some, if_true]
      rw [first.observed_runHook_withoutForks position hook hlookup hfirst,
        second.observed_runHook_withoutForks position other hother hsecond, hsame, h.registry]

/-- A walk of explorers that differ in forks alone, by induction on the number
    of steps. -/
theorem observed_walk (first second : Explorer) (limit steps : Nat)
    (h : first.SameOutsideForks second) :
    ∀ position : Position,
      (∀ execution ∈ first.executions steps position, execution.Quiet) →
      (∀ execution ∈ second.executions steps position, execution.Quiet) →
      (second.walk limit steps position).observed = (first.walk limit steps position).observed := by
  induction steps with
  | zero => exact fun _ _ _ => rfl
  | succ steps ih =>
      intro position hfirst hsecond
      have hhead : ∀ explorer : Explorer,
          (∀ execution ∈ explorer.executions (steps + 1) position, execution.Quiet) →
            ∀ execution, explorer.execution? position = some execution → execution.Quiet := by
        intro explorer hquiet execution hexecution
        refine hquiet execution ?_
        unfold executions
        exact List.mem_append_left _ (by rw [hexecution]; exact List.mem_singleton_self _)
      have hvisit := first.observed_runUnit second position h (hhead first hfirst)
        (hhead second hsecond)
      have hadvance : (second.advance position).observed = (first.advance position).observed :=
        observed_proceed _ _ hvisit
      simp only [Visit.observed, Prod.mk.injEq] at hadvance
      rcases hadvance with ⟨hresult, hmachine, hnames⟩
      have hnext : second.next? position = first.next? position := by
        unfold next?
        rw [hresult, hmachine, hnames]
      cases hgo : first.next? position with
      | none =>
          rw [first.walk_of_next_none limit steps position hgo,
            second.walk_of_next_none limit steps position (hnext.trans hgo)]
          simp only [Walk.observed, conclude, hresult, hmachine, hnames]
      | some next =>
          have htail : ∀ explorer : Explorer, explorer.next? position = some next →
              (∀ execution ∈ explorer.executions (steps + 1) position, execution.Quiet) →
                ∀ execution ∈ explorer.executions steps next, execution.Quiet := by
            intro explorer hstep hquiet execution hexecution
            refine hquiet execution ?_
            unfold executions
            rw [hstep]
            exact List.mem_append_right _ hexecution
          have hrest := ih next (htail first hgo hfirst)
            (htail second (hnext.trans hgo) hsecond)
          rw [first.walk_of_next_some limit steps position next hgo,
            second.walk_of_next_some limit steps position next (hnext.trans hgo)]
          simp only [Walk.observed, Walk.after, Prod.mk.injEq] at hrest ⊢
          rcases hrest with ⟨hend, hvisited, hleft, hdrawn⟩
          exact ⟨hend, by rw [hvisited], hleft, hdrawn⟩

/-- Quiet forks do not interfere. An execution whose forks are quiet is the
    execution of the summary without them, as far as the machine it ran on is
    concerned. Explorers whose summaries differ in quiet forks alone see the
    same: the same result, the same addresses, the same machine and the same
    names. -/
theorem forks_indistinguishable :
    (∀ (bound : Bound) (registry : Registry) (machine : Machine) (names : NameSupply),
      (bound.execute registry machine names).Quiet →
        (bound.execute registry machine names).Erases
          (bound.withoutForks.execute registry machine names)) ∧
      ∀ (first second : Explorer) (machine : Machine) (names : NameSupply) (entry : Word)
        (limit : Nat), first.SameOutsideForks second →
        (∀ execution ∈ first.executions limit ⟨entry, none, machine, names⟩, execution.Quiet) →
        (∀ execution ∈ second.executions limit ⟨entry, none, machine, names⟩, execution.Quiet) →
          (second.explore machine names entry limit).observed =
            (first.explore machine names entry limit).observed := by
  refine ⟨Bound.erases_execute, ?_⟩
  intro first second machine names entry limit hsame hfirst hsecond
  exact first.observed_walk second limit limit hsame ⟨entry, none, machine, names⟩ hfirst hsecond

/-- A summary that runs a body in a fork before it returns a constant. -/
def guarded (body : Program) : Summary where
  name := "Guarded"
  program := .fork body fun _ => .step (.setReturn (.constant 7 64)) .doReturn

/-- A body that pushes, returns in a fork of its own, and halts. -/
def busyBody : Program :=
  .step (.push (.constant 1 64)) <|
    .fork (.step .doReturn (.finish none)) fun _ => .step .halt (.finish none)

/-- A block that calls the summary, over and over. -/
def guardedCircle (body : Program) : Explorer where
  blocks := (∅ : Std.ExtTreeMap Word Block).insert 0x1000 [.call 0x2000 0x1000]
  hooks := (HookTable.empty.insert 0x2000 ⟨guarded body, none⟩).table
  registry := .builtin

/-- The machine on which it starts. -/
def guardedStart : Machine :=
  .withStackPointer .amd64 0x7fff0000

/-- The call of the summary in the first round. -/
def guardedBound (body : Program) : Bound where
  summary := guarded body
  invocation := Registry.builtin.invocation .amd64 (some 0x1000) none
  status := none

theorem forks_indistinguishable_guarded :
    ((guardedBound busyBody).execute .builtin guardedStart .zero).Erases
        ((guardedBound busyBody).withoutForks.execute .builtin guardedStart .zero) ∧
      ((guardedCircle (.finish none)).explore guardedStart .zero 0x1000 4).observed =
        ((guardedCircle busyBody).explore guardedStart .zero 0x1000 4).observed := by
  have hquiet : ((guardedBound busyBody).execute .builtin guardedStart .zero).Quiet :=
    ⟨⟨rfl, rfl⟩, trivial, trivial, trivial⟩
  have hsame : (guardedCircle busyBody).SameOutsideForks (guardedCircle (.finish none)) := by
    refine ⟨rfl, rfl, ?_⟩
    intro address
    simp only [guardedCircle, HookTable.lookup?_insert, HookTable.lookup?_empty]
    split
    next => rfl
    next => rfl
  refine ⟨forks_indistinguishable.1 _ _ _ _ hquiet,
    forks_indistinguishable.2 _ _ guardedStart .zero 0x1000 4 hsame ?_ ?_⟩
  all_goals
    -- Either explorer executes the summary in the second and in the fourth step.
    change ∀ execution ∈ ([_, _] : List Execution), execution.Quiet
    simp only [List.forall_mem_cons, List.not_mem_nil, false_implies, implies_true, and_true]
    exact ⟨⟨⟨rfl, rfl⟩, trivial, trivial, trivial⟩, ⟨⟨rfl, rfl⟩, trivial, trivial, trivial⟩⟩

end Explorer

end CallSummary
