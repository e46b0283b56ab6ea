import CallSummary.Call.Activation
import CallSummary.Proofs.Machine.Reachable

/-!
# Services of a Call

What reading arguments and returning do to an activation, said once.

Reading an argument touches the journal and nothing else, and so does reading
a row of them. `Extends` says that of two activations: the second is the
first with more reported. The answer of a row of reads is then a question
about the machine alone.

A return takes its target from the machine and records it.
`doReturn_eq_done_iff` names the machine that is left, so a statement about
returning is one about `takeReturn`.

## Main definitions

* `Activation.Extends`: The same activation with more reported.

## Theorems

* `placement_eq_ok_iff`, `returnRegister_eq_ok_iff`, `isOk_returnRegister`,
  `returnSequence_eq_ok_iff`: What the registry knows for a call.
* `location_eq_ok_iff`: A location is the one of the placement.
* `result_argument_eq_ok_iff`: When an argument is read, and what it is.
* `argument_extends`, `argumentsFrom_extends`: Reading arguments reports and
  does nothing else.
* `doReturn_of_done`, `doReturn_of_failed`, `doReturn_of_unknown`: The three
  ways a return can go.
* `doReturn_eq_done_iff`: When a return succeeds, and what it leaves.
-/

namespace CallSummary

namespace Setting

theorem placement_eq_ok_iff (setting : Setting) (placement : Placement) :
    setting.placement = .ok placement ↔
      setting.invocation.convention.bind
        (setting.registry.placement? setting.invocation.architecture) = some placement := by
  unfold Setting.placement
  simp only
  cases setting.invocation.convention.bind
    (setting.registry.placement? setting.invocation.architecture) with
  | none => simp only [reduceCtorEq]
  | some found => simp only [Except.ok.injEq, Option.some.injEq]

theorem returnSequence_eq_ok_iff (setting : Setting) (sequence : ReturnSequence) :
    setting.returnSequence = .ok sequence ↔
      setting.registry.returnSequence? setting.invocation.architecture = some sequence := by
  unfold Setting.returnSequence
  simp only
  cases setting.registry.returnSequence? setting.invocation.architecture with
  | none => simp only [reduceCtorEq]
  | some found => simp only [Except.ok.injEq, Option.some.injEq]

theorem returnRegister_eq_ok_iff (setting : Setting) (register : Register) :
    setting.returnRegister = .ok register ↔
      setting.registry.returnRegister? setting.invocation.architecture = some register := by
  unfold Setting.returnRegister
  simp only
  cases setting.registry.returnRegister? setting.invocation.architecture with
  | none => simp only [reduceCtorEq]
  | some found => simp only [Except.ok.injEq, Option.some.injEq]

theorem isOk_returnRegister (setting : Setting) :
    setting.returnRegister.isOk =
      (setting.registry.returnRegister? setting.invocation.architecture).isSome := by
  unfold Setting.returnRegister
  simp only
  cases setting.registry.returnRegister? setting.invocation.architecture with
  | none => rfl
  | some found => rfl

theorem location_eq_ok_iff (setting : Setting) (index : Nat) (location : Location) :
    setting.location index = .ok location ↔
      ∃ placement, setting.placement = .ok placement ∧
        placement.location index = some location := by
  unfold Setting.location
  cases setting.placement with
  | error fault => simp only [bind, Except.bind, reduceCtorEq, false_and, exists_false]
  | ok placement =>
      simp only [bind, Except.bind, Except.ok.injEq, exists_eq_left']
      cases placement.location index with
      | none => simp only [reduceCtorEq]
      | some found => simp only [Except.ok.injEq, Option.some.injEq]

theorem location_of_placement (setting : Setting) (placement : Placement) (index : Nat)
    (location : Location) (hplacement : setting.placement = .ok placement)
    (hlocation : placement.location index = some location) :
    setting.location index = .ok location :=
  (setting.location_eq_ok_iff index location).mpr ⟨placement, hplacement, hlocation⟩

end Setting

namespace Activation

-- An access that succeeds in an activation has succeeded on its machine.
theorem fromMachine_result_eq_ok {Answer : Type} (a : Activation)
    (access : Machine → Except AccessError Answer) (answer : Answer)
    (h : (a.fromMachine access).result = .ok answer) : access a.machine = .ok answer :=
  (Outcome.mapError_eq_ok_iff Fault.access _ answer).mp h

theorem onMachine_result_eq_ok {Answer : Type} (a : Activation)
    (access : Machine → Outcome Machine AccessError Answer) (answer : Answer)
    (h : (a.onMachine access).result = .ok answer) : (access a.machine).result = .ok answer :=
  fromMachine_result_eq_ok a (fun machine => (access machine).result) answer h

/-- The second activation is the first, with more events reported. -/
def Extends (before after : Activation) : Prop :=
  ∃ events, after = { before with journal := before.journal ++ events }

theorem extends_refl (a : Activation) : a.Extends a :=
  ⟨[], by rw [List.append_nil]⟩

theorem extends_trans (a b c : Activation) (hab : a.Extends b) (hbc : b.Extends c) :
    a.Extends c := by
  rcases hab with ⟨first, rfl⟩
  rcases hbc with ⟨second, rfl⟩
  exact ⟨first ++ second, by simp only [List.append_assoc]⟩

theorem extends_report (a : Activation) (event : Event) : a.Extends (a.report event) :=
  ⟨[event], rfl⟩

theorem machine_of_extends (a b : Activation) (h : a.Extends b) : b.machine = a.machine := by
  rcases h with ⟨events, rfl⟩
  rfl

/-- An argument is read if it has a location and the machine answers there. -/
theorem result_argument_eq_ok_iff (a : Activation) (setting : Setting) (index : Nat)
    (value : Value) :
    (a.argument setting index).result = .ok value ↔
      ∃ location, setting.location index = .ok location ∧
        a.machine.readLocation location = .ok value := by
  rw [result_argument]
  cases setting.location index with
  | error fault => simp only [Except.bind, reduceCtorEq, false_and, exists_false]
  | ok location =>
      simp only [Except.bind, Except.ok.injEq, exists_eq_left', Outcome.mapError_eq_ok_iff]

/-- Reading an argument leaves nothing behind but a line of the journal, and
    not even that where the argument has no location. -/
theorem argument_extends (a : Activation) (setting : Setting) (index : Nat) :
    a.Extends (a.argument setting index).state := by
  rw [state_argument]
  cases setting.location index with
  | error fault => exact extends_refl a
  | ok location => exact extends_report a _

theorem argumentsFrom_extends (setting : Setting) (count : Nat) :
    ∀ (a : Activation) (index : Nat),
      a.Extends (a.argumentsFrom setting count index).state := by
  induction count with
  | zero => exact fun a _ => extends_refl a
  | succ count ih =>
      intro a index
      refine Outcome.state_andThen _ _ a.Extends (argument_extends a setting index) ?_
      intro value middle hmiddle
      refine Outcome.state_andThen _ _ a.Extends ?_ fun _ _ h => h
      exact extends_trans a middle _ hmiddle (ih middle (index + 1))

theorem doReturn_of_done (a : Activation) (setting : Setting) (sequence : ReturnSequence)
    (target : Value) (machine : Machine) (hsequence : setting.returnSequence = .ok sequence)
    (htake : a.machine.takeReturn sequence = .done target machine) :
    a.doReturn setting = .done target
      { a with
        machine := machine
        flow := .returnTo target
        journal := a.journal ++ [.returning target] } := by
  unfold doReturn onMachine
  rw [hsequence]
  simp only [htake]
  rfl

/-- A return without a target fails for the reason the target is missing,
    and records nothing. -/
theorem doReturn_of_failed (a : Activation) (setting : Setting) (sequence : ReturnSequence)
    (cause : AccessError) (machine : Machine)
    (hsequence : setting.returnSequence = .ok sequence)
    (htake : a.machine.takeReturn sequence = .failed cause machine) :
    a.doReturn setting = .failed (.access cause) { a with machine := machine } := by
  unfold doReturn onMachine
  rw [hsequence]
  simp only [htake]
  rfl

theorem doReturn_of_unknown (a : Activation) (setting : Setting) (fault : Fault)
    (hsequence : setting.returnSequence = .error fault) :
    a.doReturn setting = .failed fault a := by
  unfold doReturn
  rw [hsequence]

/-- A return succeeds when the registry knows a way back and the machine has
    the target there. It moves the machine as taking the target does, and
    records the target. -/
theorem doReturn_eq_done_iff (a after : Activation) (setting : Setting) (target : Value) :
    a.doReturn setting = .done target after ↔
      ∃ sequence machine, setting.returnSequence = .ok sequence ∧
        a.machine.takeReturn sequence = .done target machine ∧
        after = { a with
          machine := machine
          flow := .returnTo target
          journal := a.journal ++ [.returning target] } := by
  constructor
  · intro h
    cases hsequence : setting.returnSequence with
    | error fault =>
        rw [doReturn_of_unknown a setting fault hsequence, Outcome.failed_ne_done] at h
        exact h.elim
    | ok sequence =>
        rcases htake : a.machine.takeReturn sequence with ⟨cause | found, machine⟩
        · rw [doReturn_of_failed a setting sequence cause machine hsequence htake,
            Outcome.failed_ne_done] at h
          exact h.elim
        · rw [doReturn_of_done a setting sequence found machine hsequence htake,
            Outcome.done_eq_done_iff] at h
          rcases h with ⟨rfl, hafter⟩
          exact ⟨sequence, machine, rfl, htake, hafter.symm⟩
  · rintro ⟨sequence, machine, hsequence, htake, rfl⟩
    exact doReturn_of_done a setting sequence target machine hsequence htake

end Activation

end CallSummary
