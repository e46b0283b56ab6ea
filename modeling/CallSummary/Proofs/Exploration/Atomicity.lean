import CallSummary.Proofs.Call.WayBack
import CallSummary.Proofs.Exploration.StepLimit
import CallSummary.Proofs.Summary.Drawings

/-!
# Failure Atomicity

What fails has not changed anything.

An access to a machine looks for everything that can go wrong before it writes,
although a push and a pop both write in two places. So an access that fails
leaves the machine as it was, and nothing has to be taken back. The operations
of a program make one access at most that writes, and record a flow after it,
so the same goes for them. What they have left when they fail is a line of the
journal. `Activation.Extends` is that (`extends_of_failed`).

A fork is different, since its body may have done anything by the time it
fails, and may have forked and failed in forks of its own. But it has done all
of it to a copy, and a copy that fails is dropped. The supply of names is the
one thing that the copy shares with the program, so what was drawn stays drawn.
How far the supply has moved is known from the transcript of the body
(`fork_of_failed`).

The preparation of a summary sees the call and no machine. If it fails, then
nothing is run, and an exploration ends with what it had.

## Main definitions

* `Activation.fork`: Fork, and go on with what became of the body.

## Theorems

* `onMachine_of_failed`: An access that fails, made from an activation.
* `extends_of_failed`: An operation that fails has only reported.
* `fork_of_failed`: A fork that fails has only drawn names and reported.
* `runUnit_of_unbound`, `walk_of_unbound`: A summary that cannot be prepared
  has done nothing.
* `failure_atomic`: Nothing that fails has changed anything.
-/

namespace CallSummary

namespace Activation

/-- Run the body on a copy, and take in what became of it. -/
def fork (a : Activation) (setting : Setting) (body : Program) : Outcome Activation Fault Unit :=
  a.join (body.run setting a.child).activation (body.run setting a.child).result

/-- An access that changes nothing by failing does not either if it is made from
    an activation. -/
theorem onMachine_of_failed {Answer : Type} (a : Activation) (fault : Fault)
    (access : Machine → Outcome Machine AccessError Answer)
    (hatomic : ∀ cause, (access a.machine).result = .error cause →
      (access a.machine).state = a.machine)
    (h : (a.onMachine access).result = .error fault) : (a.onMachine access).state = a := by
  have hfailed : (access a.machine).result.mapError Fault.access = .error fault := h
  cases hresult : (access a.machine).result with
  | error cause =>
      change { a with machine := (access a.machine).state } = a
      rw [hatomic cause hresult]
  | ok answer =>
      -- An answer is no fault.
      rw [hresult] at hfailed
      cases hfailed

theorem setReturn_of_failed (a : Activation) (setting : Setting) (value : Value) (fault : Fault)
    (h : (a.setReturn setting value).result = .error fault) :
    a.Extends (a.setReturn setting value).state := by
  unfold setReturn at h ⊢
  cases hregister : setting.returnRegister with
  | error cause => exact a.extends_refl
  | ok register =>
      rw [hregister] at h
      simp only at h ⊢
      -- The report comes before the write, so a write that fails has been reported.
      rw [(a.report (.writingReturn value register)).onMachine_of_failed fault _
        (a.machine.writeRegister_atomic register value) h]
      exact a.extends_report _

/-- The first of the two may have succeeded, but it has only read. -/
theorem forwardArgument_of_failed (a : Activation) (setting : Setting) (index : Nat)
    (fault : Fault) (h : (a.forwardArgument setting index).result = .error fault) :
    a.Extends (a.forwardArgument setting index).state := by
  have hread := a.argument_extends setting index
  unfold forwardArgument at h ⊢
  rcases hargument : a.argument setting index with ⟨cause | value, middle⟩
  · rw [hargument] at hread
    exact hread
  · rw [hargument] at hread h
    exact a.extends_trans middle _ hread (middle.setReturn_of_failed setting value fault h)

/-- The flow is recorded after the target is had, so it is not recorded by a
    return that fails. -/
theorem doReturn_failed (a : Activation) (setting : Setting) (fault : Fault)
    (h : (a.doReturn setting).result = .error fault) : (a.doReturn setting).state = a := by
  cases hsequence : setting.returnSequence with
  | error cause => rw [a.doReturn_of_unknown setting cause hsequence, Outcome.state_failed]
  | ok sequence =>
      have hatomic := a.machine.takeReturn_atomic sequence
      rcases htake : a.machine.takeReturn sequence with ⟨cause | target, machine⟩
      · have hmachine : machine = a.machine := by
          rw [htake] at hatomic
          exact hatomic cause rfl
        rw [a.doReturn_of_failed setting sequence cause machine hsequence htake,
          Outcome.state_failed, hmachine]
      · rw [a.doReturn_of_done setting sequence target machine hsequence htake] at h
        cases h

end Activation

/-- An operation that fails has only reported. -/
theorem Operation.extends_of_failed (setting : Setting) (op : Operation) (a : Activation)
    (fault : Fault) (h : (op.perform setting a).result = .error fault) :
    a.Extends (op.perform setting a).state := by
  have hsame : ∀ after : Activation, after = a → a.Extends after := by
    rintro after rfl
    exact after.extends_refl
  cases op with
  | writeRegister reference value =>
      refine hsame _ (a.onMachine_of_failed fault _ ?_ h)
      intro cause hfailed
      -- The register may not be known, and then there is no access.
      cases hresolve : a.machine.resolve reference with
      | error unknown => rfl
      | ok register =>
          rw [hresolve] at hfailed
          exact a.machine.writeRegister_atomic register value cause hfailed
  | writeStack offset value =>
      exact hsame _ (a.onMachine_of_failed fault _ (a.machine.writeStack_atomic offset value) h)
  | push value => exact hsame _ (a.onMachine_of_failed fault _ (a.machine.push_atomic value) h)
  | pop => exact hsame _ (a.onMachine_of_failed fault _ a.machine.pop_atomic h)
  | argument index => exact a.argument_extends setting index
  | arguments count => exact Activation.argumentsFrom_extends setting count a 0
  | setReturn value => exact a.setReturn_of_failed setting value fault h
  | forwardArgument index => exact a.forwardArgument_of_failed setting index fault h
  | doReturn => exact hsame _ (a.doReturn_failed setting fault h)
  -- These do not fail.
  | halt => cases h
  | drawNumber => cases h
  | freshName stem => cases h
  | _ => exact a.extends_refl

/-- A fork that fails has used up the names that its body has drawn, and has
    reported. The machine, the flow and the forks are those of before. -/
theorem Activation.fork_of_failed (a : Activation) (setting : Setting) (body : Program)
    (fault : Fault) (h : (a.fork setting body).result = .error fault) :
    ∃ events, (a.fork setting body).state =
      { a with
        names :=
          ⟨a.names.next + .ofNat (drawings (body.run setting a.child).transcript).length⟩
        journal := a.journal ++ events } := by
  have hdraws := (body.draws_run setting a.child).next
  unfold fork at h ⊢
  cases hresult : (body.run setting a.child).result with
  | error cause =>
      -- Of the copy only the names and the journal are taken over.
      refine ⟨(body.run setting a.child).activation.journal, ?_⟩
      rw [Activation.join_error, Outcome.state_failed]
      congr 1
      exact congrArg NameSupply.mk hdraws
  | ok status =>
      -- A body that succeeds makes a fork that does.
      rw [hresult, Activation.join_ok] at h
      cases h

namespace Explorer

/-- A summary that cannot be bound leaves the machine and the names as they
    were, and nothing is written down. -/
theorem runUnit_of_unbound (explorer : Explorer) (position : Position) (hook : Hook)
    (fault : Fault) (hhook : explorer.hooks.lookup? position.address = some hook)
    (h : (hook.summary.bind explorer.registry position.machine.architecture position.caller
      hook.convention).result = .error fault) :
    explorer.runUnit position = ⟨.error fault, position.machine, position.names, []⟩ := by
  unfold runUnit runHook HookTable.dispatch?
  rw [HookTable.isHooked_eq, hhook]
  simp only [Option.isSome_some, if_true, Option.map_some, h]
  -- The one thing that stops a summary from being bound is its preparation.
  unfold Summary.bind at h ⊢
  simp only at h ⊢
  split at h
  next => cases h
  next => rfl

theorem walk_of_unbound (explorer : Explorer) (position : Position) (hook : Hook)
    (fault : Fault) (limit steps : Nat)
    (hhook : explorer.hooks.lookup? position.address = some hook)
    (h : (hook.summary.bind explorer.registry position.machine.architecture position.caller
      hook.convention).result = .error fault) :
    explorer.walk limit (steps + 1) position =
      ⟨.error fault, [position.address], position.machine, position.names, []⟩ := by
  have hadvance : explorer.advance position =
      ⟨.error fault, position.machine, position.names, []⟩ := by
    unfold advance
    rw [explorer.runUnit_of_unbound position hook fault hhook h]
    rfl
  rw [explorer.walk_of_next_none limit steps position]
  · simp only [conclude, hadvance, Except.map]
  · unfold next?
    rw [hadvance]

end Explorer

/-- Nothing that fails has changed anything. An access leaves the machine as it
    was, and an operation of a program the machine, the names, the flow and the
    forks. A fork whose body has failed, whatever it did before, leaves all of
    them but the names. The supply has moved on by one for each that was drawn,
    so its number is the larger by as much, as long as there are numbers left.
    A summary that cannot be prepared leaves the exploration with what it
    had. -/
theorem failure_atomic :
    ((∀ (machine : Machine) (register : Register) (value : Value) (cause : AccessError),
        (machine.writeRegister register value).result = .error cause →
          (machine.writeRegister register value).state = machine) ∧
      (∀ (machine : Machine) (offset : Offset) (value : Value) (cause : AccessError),
        (machine.writeStack offset value).result = .error cause →
          (machine.writeStack offset value).state = machine) ∧
      (∀ (machine : Machine) (value : Value) (cause : AccessError),
        (machine.push value).result = .error cause → (machine.push value).state = machine) ∧
      ∀ (machine : Machine) (cause : AccessError),
        machine.pop.result = .error cause → machine.pop.state = machine) ∧
      (∀ (setting : Setting) (op : Operation) (a : Activation) (fault : Fault),
        (op.perform setting a).result = .error fault → a.Extends (op.perform setting a).state) ∧
      (∀ (setting : Setting) (body : Program) (next : Except Fault Unit → Program)
        (a : Activation),
        (Program.fork body next).run setting a =
            ((next (a.fork setting body).result).run setting (a.fork setting body).state).after
              (.forked (body.run setting a.child).transcript (a.fork setting body).result) ∧
          ∀ fault, (a.fork setting body).result = .error fault →
            let drawn := (drawings (body.run setting a.child).transcript).length
            (∃ events, (a.fork setting body).state =
              { a with
                names := ⟨a.names.next + .ofNat drawn⟩
                journal := a.journal ++ events }) ∧
              (a.names.next.toNat + drawn < 2 ^ 64 →
                (a.fork setting body).state.names.next.toNat = a.names.next.toNat + drawn)) ∧
      ∀ (explorer : Explorer) (position : Position) (hook : Hook) (fault : Fault),
        explorer.hooks.lookup? position.address = some hook →
        (hook.summary.bind explorer.registry position.machine.architecture position.caller
          hook.convention).result = .error fault →
          explorer.runUnit position = ⟨.error fault, position.machine, position.names, []⟩ ∧
            ∀ limit steps, explorer.walk limit (steps + 1) position =
              ⟨.error fault, [position.address], position.machine, position.names, []⟩ := by
  refine ⟨⟨Machine.writeRegister_atomic, Machine.writeStack_atomic, Machine.push_atomic,
    Machine.pop_atomic⟩, fun setting op a => op.extends_of_failed setting a, ?_, ?_⟩
  · intro setting body next a
    refine ⟨rfl, ?_⟩
    intro fault h drawn
    rcases a.fork_of_failed setting body fault h with ⟨events, hstate⟩
    refine ⟨⟨events, hstate⟩, ?_⟩
    rw [hstate]
    intro hroom
    exact a.names.toNat_next_add drawn (by omega)
  · intro explorer position hook fault hhook h
    refine ⟨explorer.runUnit_of_unbound position hook fault hhook h, ?_⟩
    intro limit steps
    exact explorer.walk_of_unbound position hook fault limit steps hhook h

/-- A body that pushes, draws a name, goes back in a fork of its own and halts
    before it gives up. -/
def abandonedBody : Program :=
  .step (.push (.constant 1 64)) <|
    .ask (.freshName "x") fun _ =>
      .fork (.step .drawNumber <| .step .doReturn (.finish none)) fun _ =>
        .step .halt (.fail (.unimplemented "Abandoned"))

/-- A hook that cannot be prepared. -/
def Explorer.unprepared : Explorer where
  blocks := ∅
  hooks := (HookTable.empty.insert 0x2000
    ⟨{ name := "Unprepared"
       prepare := fun _ => .error (.unimplemented "Unprepared")
       program := .finish none }, none⟩).table
  registry := .builtin

theorem failure_atomic_abandoned :
    ((Machine.withStackPointer .amd64 4).push (.constant 1 64)).state =
        .withStackPointer .amd64 4 ∧
      (Activation.start (.withStackPointer .amd64 4) .zero).Extends
        (Operation.perform ⟨.builtin, ⟨none, .amd64, none⟩⟩ .doReturn
          (.start (.withStackPointer .amd64 4) .zero)).state ∧
      (∃ events, ((Activation.start (.withStackPointer .amd64 0x1000) .zero).fork
          ⟨.builtin, ⟨none, .amd64, none⟩⟩ abandonedBody).state =
        ⟨.withStackPointer .amd64 0x1000, ⟨2⟩, .next, [], events⟩) ∧
      Explorer.unprepared.walk 5 5 ⟨0x2000, none, .withStackPointer .amd64 4, .zero⟩ =
        ⟨.error (.unimplemented "Unprepared"), [0x2000], .withStackPointer .amd64 4, .zero,
          []⟩ := by
  rcases failure_atomic with ⟨⟨_, _, hpush, _⟩, hperform, hfork, hunbound⟩
  refine ⟨hpush _ _ _ rfl, hperform _ _ _ _ rfl, ?_, (hunbound _ _ _ _ rfl rfl).2 5 4⟩
  exact ((hfork _ abandonedBody (fun _ => .finish none) (.start (.withStackPointer .amd64 0x1000)
    .zero)).2 _ rfl).1

end CallSummary
