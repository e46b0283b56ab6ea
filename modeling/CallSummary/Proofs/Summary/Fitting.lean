import CallSummary.Convention.Builtin
import CallSummary.Proofs.Call.ArgumentRow
import CallSummary.Proofs.Summary.Forest

/-!
# Fitting Values in Summaries

A summary that makes only values that fit keeps a machine well-formed.

Everything a machine holds fits its width as long as everything written to it
does. A program writes what it has made itself and what it has been told, and
what it is told comes from the machine. So the condition on a program,
`Program.MakesFitting`, is that the values it makes fit whenever those it has
been told do. It is a condition on every node, for every reply the node can
get.

Being well-formed is not the only property that such a program keeps. It keeps
every one that accesses with fitting values keep, since it does nothing else to
a machine. What is asked of the property, and of the return targets that are
recorded along the way, is `Setting.Keeps`. One operation keeps what accesses
do (`holds_perform`) and tells values that fit (`fittingReply_perform`), and a
run keeps it by induction on the program (`holds_run`). A fork starts on a copy
of the machine, so the machines that are split off have the property too.

A return hands on a target that fits, and that is as wide as a pointer if the
link register is. The second half of that is why the way back has to be
restricted in `Registry.LinksPointer`. All built-in ways back satisfy it.
`Activation.Sound` is the instance for well-formed machines with such targets.
What a bound summary leaves is then known to the explorer without a look into
the program.

## Main definitions

* `Flow.Fits`: A return target that fits and has pointer width.
* `Registry.LinksPointer`: The link register is as wide as a pointer.
* `Setting.Keeps`, `Activation.Holds`: What a run keeps, and an activation that
  has it.
* `Operation.MakesFitting`, `Program.MakesFitting`: Programs whose own values
  fit.
* `Activation.Sound`: The invariant of a run that returns to pointers.

## Theorems

* `linksPointer_builtin`: The built-in link registers.
* `takeReturn_fits`, `takeReturn_bits`: A return target fits, and has pointer
  width.
* `readLocation_fits`, `readLocation_bits`: The same of what is at a location.
* `keeps_of_invariant`, `keeps_wellFormed`: What accesses keep, with targets
  that fit, or that are pointers.
* `holds_perform`, `fittingReply_perform`: An operation keeps it and tells what
  fits.
* `holds_run`, `sound_run`: A run keeps it, and so do its forks.
* `makesFitting_returnUnconstrained` and others: The library makes fitting
  values.
-/

namespace CallSummary

/-- A return goes to a value that fits and is as wide as a pointer. -/
def Flow.Fits (arch : Architecture) : Flow → Prop
  | .returnTo target => target.Fits ∧ target.bits = arch.bits
  | _ => True

/-- A return goes to a value with the property. -/
def Flow.Targets (Q : Value → Prop) : Flow → Prop
  | .returnTo target => Q target
  | _ => True

theorem Flow.fits_iff (arch : Architecture) (flow : Flow) :
    flow.Fits arch ↔ flow.Targets fun target => target.Fits ∧ target.bits = arch.bits := by
  cases flow with
  | returnTo target => rfl
  | next => rfl
  | halt => rfl

/-- The link register of the architecture, if there is one, holds a pointer. -/
def Registry.LinksPointer (registry : Registry) (arch : Architecture) : Prop :=
  ∀ link, registry.returnSequence? arch = some (.linkRegister link) →
    link.size = arch.pointerSize

theorem Registry.linksPointer_builtin (arch : Architecture) :
    Registry.builtin.LinksPointer arch := by
  intro link hlink
  cases arch <;> cases hlink <;> rfl

theorem Register.bits_of_size (register : Register) (arch : Architecture)
    (h : register.size = arch.pointerSize) : register.bits = arch.bits := by
  have hcases := arch.pointerSize_cases
  unfold Register.bits
  omega

namespace Machine

/-- The target of a return fits, whatever the way back. -/
theorem takeReturn_fits (machine : Machine) (sequence : ReturnSequence) (target : Value)
    (h : machine.WellFormed) (htarget : (machine.takeReturn sequence).result = .ok target) :
    target.Fits := by
  cases sequence with
  | popStack => exact (pop_fits machine _ target h (Outcome.eq_done_of_result _ target htarget)).1
  | linkRegister link => exact readRegister_fits machine link target h htarget

/-- A slot has pointer width in any case, a link register has to. -/
theorem takeReturn_bits (machine : Machine) (sequence : ReturnSequence) (target : Value)
    (h : machine.WellFormed)
    (hlink : ∀ link, sequence = .linkRegister link → link.bits = machine.architecture.bits)
    (htarget : (machine.takeReturn sequence).result = .ok target) :
    target.bits = machine.architecture.bits := by
  cases sequence with
  | popStack => exact (pop_fits machine _ target h (Outcome.eq_done_of_result _ target htarget)).2
  | linkRegister link =>
      have hread : machine.readRegister link = .ok target := htarget
      rw [(readRegister_eq_ok_iff.mp hread).2]
      exact hlink link rfl

theorem readLocation_fits (machine : Machine) (location : Location) (value : Value)
    (h : machine.WellFormed) (hread : machine.readLocation location = .ok value) :
    value.Fits := by
  cases location with
  | register register => exact readRegister_fits machine register value h hread
  | stack offset =>
      rcases (readStack_eq_ok_iff machine offset value).mp hread with ⟨address, _, hslot⟩
      exact h.slot_fits address value hslot

/-- What is at a location has pointer width if the register there does. -/
theorem readLocation_bits (machine : Machine) (location : Location) (value : Value)
    (h : machine.WellFormed)
    (hregister : ∀ register, location = .register register →
      register.bits = machine.architecture.bits)
    (hread : machine.readLocation location = .ok value) :
    value.bits = machine.architecture.bits := by
  cases location with
  | register register =>
      rw [(readRegister_eq_ok_iff.mp hread).2]
      exact hregister register rfl
  | stack offset =>
      rcases (readStack_eq_ok_iff machine offset value).mp hread with ⟨address, _, hslot⟩
      exact h.slot_bits address value hslot

theorem Invariant.takeReturn {P : Machine → Prop} (h : Invariant P) (machine : Machine)
    (sequence : ReturnSequence) (hmachine : P machine) :
    P (machine.takeReturn sequence).state := by
  cases sequence with
  | popStack => exact h.pop machine hmachine
  | linkRegister link => exact hmachine

end Machine

/-- Runs under the setting keep the first property of their machine, and all
    targets they record have the second. -/
structure Setting.Keeps (setting : Setting) (P : Machine → Prop) (Q : Value → Prop) : Prop where
  invariant : Machine.Invariant P
  target : ∀ (machine : Machine) (sequence : ReturnSequence) (target : Value), P machine →
    setting.returnSequence = .ok sequence →
    (machine.takeReturn sequence).result = .ok target → Q target

/-- Of the targets it is enough to know that they fit. -/
theorem Setting.keeps_of_invariant (setting : Setting) (P : Machine → Prop)
    (h : Machine.Invariant P) : setting.Keeps P Value.Fits where
  invariant := h
  target machine sequence target hmachine _ htarget :=
    machine.takeReturn_fits sequence target (h.wellFormed machine hmachine) htarget

theorem Setting.keeps_wellFormed (setting : Setting) (arch : Architecture)
    (hlink : setting.registry.LinksPointer arch)
    (hsetting : setting.invocation.architecture = arch) :
    setting.Keeps (fun machine => machine.WellFormed ∧ machine.architecture = arch)
      (fun target => target.Fits ∧ target.bits = arch.bits) where
  invariant := Machine.invariant_wellFormed arch
  target := by
    rintro machine sequence target ⟨h, harch⟩ hsequence htarget
    refine ⟨machine.takeReturn_fits sequence target h htarget, ?_⟩
    rw [← harch]
    refine machine.takeReturn_bits sequence target h ?_ htarget
    -- The link register is the one that the registry names for the architecture.
    intro link hsame
    rw [setting.returnSequence_eq_ok_iff, hsetting, hsame] at hsequence
    rw [harch]
    exact link.bits_of_size arch (hlink link hsequence)

/-- The machine has the first property, and the target recorded so far, if any,
    the second. -/
structure Activation.Holds (a : Activation) (P : Machine → Prop) (Q : Value → Prop) : Prop where
  machine : P a.machine
  flow : a.flow.Targets Q

/-- The same of a machine that was split off. -/
structure Successor.Holds (successor : Successor) (P : Machine → Prop) (Q : Value → Prop) :
    Prop where
  machine : P successor.machine
  flow : successor.flow.Targets Q

namespace Activation

variable {P : Machine → Prop} {Q : Value → Prop}

theorem holds_start (machine : Machine) (names : NameSupply) (h : P machine) :
    (start machine names).Holds P Q :=
  ⟨h, trivial⟩

theorem holds_of_extends (a b : Activation) (h : a.Holds P Q) (hextends : a.Extends b) :
    b.Holds P Q := by
  rcases hextends with ⟨events, rfl⟩
  exact ⟨h.machine, h.flow⟩

theorem argument_fits (a : Activation) (setting : Setting) (index : Nat) (value : Value)
    (h : a.machine.WellFormed) (hvalue : (a.argument setting index).result = .ok value) :
    value.Fits := by
  rcases (a.result_argument_eq_ok_iff setting index value).mp hvalue with ⟨location, _, hread⟩
  exact a.machine.readLocation_fits location value h hread

theorem arguments_fits (a : Activation) (setting : Setting) (count : Nat) (values : List Value)
    (h : a.machine.WellFormed) (hvalues : (a.arguments setting count).result = .ok values) :
    ∀ value ∈ values, value.Fits := by
  intro value hvalue
  rcases List.getElem_of_mem hvalue with ⟨i, hi, rfl⟩
  have hanswers := ((a.result_arguments_eq_ok_iff setting count values).mp hvalues).2
  exact a.argument_fits setting i values[i] h (hanswers i hi)

theorem holds_setReturn (a : Activation) (setting : Setting) (value : Value)
    (hinvariant : Machine.Invariant P) (h : a.Holds P Q) (hvalue : value.Fits) :
    (a.setReturn setting value).state.Holds P Q := by
  unfold setReturn
  cases setting.returnRegister with
  | error fault => exact h
  | ok register =>
      exact ⟨hinvariant.writeRegister a.machine register value h.machine hvalue, h.flow⟩

/-- A return takes its target as the machine does, and records nothing else. -/
theorem holds_doReturn (a : Activation) (setting : Setting) (hkeeps : setting.Keeps P Q)
    (h : a.Holds P Q) : (a.doReturn setting).state.Holds P Q := by
  cases hsequence : setting.returnSequence with
  | error fault =>
      rw [doReturn_of_unknown a setting fault hsequence]
      exact h
  | ok sequence =>
      have hkept := hkeeps.invariant.takeReturn a.machine sequence h.machine
      rcases htake : a.machine.takeReturn sequence with ⟨cause | target, machine⟩
      · rw [htake] at hkept
        rw [doReturn_of_failed a setting sequence cause machine hsequence htake]
        exact ⟨hkept, h.flow⟩
      · rw [htake] at hkept
        rw [doReturn_of_done a setting sequence target machine hsequence htake]
        exact ⟨hkept,
          hkeeps.target a.machine sequence target h.machine hsequence (by rw [htake])⟩

-- The target is the one that the way back has led to.
theorem doReturn_fits (a : Activation) (setting : Setting) (target : Value)
    (h : a.machine.WellFormed) (htarget : (a.doReturn setting).result = .ok target) :
    target.Fits := by
  rcases (doReturn_eq_done_iff a _ setting target).mp (Outcome.eq_done_of_result _ target htarget)
    with ⟨sequence, machine, _, htake, _⟩
  exact a.machine.takeReturn_fits sequence target h (by rw [htake]; rfl)

end Activation

namespace Operation

variable {P : Machine → Prop} {Q : Value → Prop}

/-- The value that the operation writes fits, if it writes one. -/
def MakesFitting : Operation → Prop
  | .writeRegister _ value => value.Fits
  | .writeStack _ value => value.Fits
  | .push value => value.Fits
  | .setReturn value => value.Fits
  | _ => True

/-- The values in the answer fit. -/
def FittingReply : (op : Operation) → op.Reply → Prop
  | .readRegister _, value => value.Fits
  | .readStack _, value => value.Fits
  | .pop, value => value.Fits
  | .argument _, value => value.Fits
  | .arguments _, values => ∀ value ∈ values, value.Fits
  | .doReturn, target => target.Fits
  | .flow, recorded => ∀ target, recorded = .returnTo target → target.Fits
  | .snapshot, machine => machine.WellFormed
  | _, _ => True

/-- An operation that makes no unfit value keeps what accesses keep. Most
    operations make no access, and the others make one. -/
theorem holds_perform (setting : Setting) (op : Operation) (a : Activation)
    (hkeeps : setting.Keeps P Q) (hop : op.MakesFitting) (h : a.Holds P Q) :
    (op.perform setting a).state.Holds P Q := by
  have hinvariant := hkeeps.invariant
  cases op with
  | writeRegister reference value =>
      refine ⟨?_, h.flow⟩
      show P (Outcome.andThen ⟨a.machine.resolve reference, a.machine⟩ _).state
      cases a.machine.resolve reference with
      | error cause => exact h.machine
      | ok register => exact hinvariant.writeRegister a.machine register value h.machine hop
  | writeStack offset value =>
      exact ⟨hinvariant.writeStack a.machine offset value h.machine hop, h.flow⟩
  | push value => exact ⟨hinvariant.push a.machine value h.machine hop, h.flow⟩
  | pop => exact ⟨hinvariant.pop a.machine h.machine, h.flow⟩
  | argument index => exact a.holds_of_extends _ h (a.argument_extends setting index)
  | arguments count =>
      exact a.holds_of_extends _ h (Activation.argumentsFrom_extends setting count a 0)
  | setReturn value => exact a.holds_setReturn setting value hinvariant h hop
  | forwardArgument index =>
      have hargument := a.holds_of_extends _ h (a.argument_extends setting index)
      show ((a.argument setting index).andThen _).state.Holds P Q
      rcases hread : a.argument setting index with ⟨cause | value, middle⟩
      · rw [hread] at hargument
        exact hargument
      · -- What is written is not the program's own, but what was read fits too.
        have hvalue := a.argument_fits setting index value (hinvariant.wellFormed _ h.machine)
          (by rw [hread])
        rw [hread] at hargument
        exact middle.holds_setReturn setting value hinvariant hargument hvalue
  | doReturn => exact a.holds_doReturn setting hkeeps h
  | halt => exact ⟨h.machine, trivial⟩
  | drawNumber => exact ⟨h.machine, h.flow⟩
  | freshName stem => exact ⟨h.machine, h.flow⟩
  | _ => exact h

/-- What an operation tells fits, since it is told by a well-formed machine or
    has been recorded. -/
theorem fittingReply_perform (setting : Setting) (op : Operation) (a : Activation)
    (h : a.Holds Machine.WellFormed Value.Fits) (answer : op.Reply)
    (hanswer : (op.perform setting a).result = .ok answer) : op.FittingReply answer := by
  cases op with
  | readRegister reference =>
      have hread := a.fromMachine_result_eq_ok _ answer hanswer
      cases hresolve : a.machine.resolve reference with
      | error cause =>
          rw [hresolve] at hread
          cases hread
      | ok register =>
          rw [hresolve] at hread
          exact Machine.readRegister_fits a.machine register answer h.machine hread
  | readStack offset =>
      exact a.machine.readLocation_fits (.stack offset) answer h.machine
        (a.fromMachine_result_eq_ok _ answer hanswer)
  | pop =>
      exact (Machine.pop_fits a.machine _ answer h.machine (Outcome.eq_done_of_result _ answer
        (a.onMachine_result_eq_ok _ answer hanswer))).1
  | argument index => exact a.argument_fits setting index answer h.machine hanswer
  | arguments count => exact a.arguments_fits setting count answer h.machine hanswer
  | doReturn => exact a.doReturn_fits setting answer h.machine hanswer
  | flow =>
      intro target htarget
      have hrecorded := h.flow
      rw [Except.ok.inj hanswer, htarget] at hrecorded
      exact hrecorded
  | snapshot =>
      rw [← Except.ok.inj hanswer]
      exact h.machine
  | _ => trivial

end Operation

namespace Program

variable {P : Machine → Prop} {Q : Value → Prop}

/-- The values that the program makes fit, if those do that it is told. -/
def MakesFitting : Program → Prop
  | finish status => ∀ value, status = some value → value.Fits
  | fail _ => True
  | perform op next =>
    op.MakesFitting ∧
      ∀ reply, (∀ answer, reply = .ok answer → op.FittingReply answer) →
        (next reply).MakesFitting
  | fork body next => body.MakesFitting ∧ ∀ reply, (next reply).MakesFitting
  | inline _ body next =>
    body.MakesFitting ∧
      ∀ reply, (∀ value, reply = .ok (some value) → value.Fits) → (next reply).MakesFitting

-- What a run keeps is at least well-formed, and its targets fit.
theorem fitting_of_holds (a : Activation) (hinvariant : Machine.Invariant P)
    (htargets : ∀ target, Q target → target.Fits) (h : a.Holds P Q) :
    a.Holds Machine.WellFormed Value.Fits := by
  refine ⟨hinvariant.wellFormed a.machine h.machine, ?_⟩
  have hflow := h.flow
  cases hrecorded : a.flow with
  | returnTo target =>
      rw [hrecorded] at hflow
      exact htargets target hflow
  | next => trivial
  | halt => trivial

/-- A run keeps what accesses keep and leaves a status that fits, by induction
    on the program. Every machine it splits off has been run on by a body, and
    the body has started on a machine with the property. -/
theorem holds_run (setting : Setting) (hkeeps : setting.Keeps P Q)
    (htargets : ∀ target, Q target → target.Fits) (program : Program) :
    program.MakesFitting → ∀ a : Activation, a.Holds P Q →
      (program.run setting a).activation.Holds P Q ∧
        (∀ value, (program.run setting a).result = .ok (some value) → value.Fits) ∧
        ∀ successor ∈ (program.run setting a).activation.forks,
          successor ∈ a.forks ∨ successor.Holds P Q := by
  induction program with
  | finish status =>
      intro hfits a h
      exact ⟨h, fun value hvalue => hfits value (Except.ok.inj hvalue), fun _ => .inl⟩
  | fail fault =>
      intro _ a h
      exact ⟨h, by nofun, fun _ => .inl⟩
  | perform op next ih =>
      intro hfits a h
      have hreply := op.fittingReply_perform setting a
        (fitting_of_holds a hkeeps.invariant htargets h)
      rcases ih _ (hfits.2 _ hreply) _ (op.holds_perform setting a hkeeps hfits.1 h) with
        ⟨hleft, hstatus, hforks⟩
      refine ⟨hleft, hstatus, ?_⟩
      intro successor hsuccessor
      rw [← (op.perform_eq_act setting a).2.2]
      exact hforks successor hsuccessor
  | fork body next ihbody ih =>
      intro hfits a h
      rcases ihbody hfits.1 a.child ⟨h.machine, trivial⟩ with ⟨hcopy, _, hbelow⟩
      cases hresult : (body.run setting a.child).result with
      | error fault =>
          rw [run_fork_error setting body next a fault hresult]
          exact ih _ (hfits.2 _) (a.dropping (body.run setting a.child).activation)
            ⟨h.machine, h.flow⟩
      | ok status =>
          rw [run_fork_ok setting body next a status hresult]
          rcases ih (.ok ()) (hfits.2 _) (a.taking (body.run setting a.child).activation)
            ⟨h.machine, h.flow⟩ with ⟨hleft, hstatus, hforks⟩
          refine ⟨hleft, hstatus, ?_⟩
          intro successor hsuccessor
          -- It was there before, or it is the copy, or it was split off from the copy.
          rcases hforks successor hsuccessor with hmem | hholds
          · rcases List.mem_append.mp hmem with hbefore | hnew
            · exact .inl hbefore
            · rcases List.mem_cons.mp hnew with rfl | hinner
              · exact .inr ⟨hcopy.machine, hcopy.flow⟩
              · rcases hbelow successor hinner with hnone | hholds
                · exact absurd hnone List.not_mem_nil
                · exact .inr hholds
          · exact .inr hholds
  | inline name body next ihbody ih =>
      intro hfits a h
      rcases ihbody hfits.1 a h with ⟨hinner, hstatus, hbelow⟩
      rcases ih _ (hfits.2 _ hstatus) _ hinner with ⟨hleft, hlast, hforks⟩
      refine ⟨hleft, hlast, ?_⟩
      intro successor hsuccessor
      rcases hforks successor hsuccessor with hmem | hholds
      · exact hbelow successor hmem
      · exact .inr hholds

theorem makesFitting_ask (op : Operation) (next : op.Reply → Program) (hop : op.MakesFitting)
    (hnext : ∀ answer, op.FittingReply answer → (next answer).MakesFitting) :
    (ask op next).MakesFitting := by
  refine ⟨hop, ?_⟩
  intro reply hreply
  cases reply with
  | error fault => trivial
  | ok answer => exact hnext answer (hreply answer rfl)

theorem makesFitting_doReturn : doReturn.MakesFitting :=
  makesFitting_ask .doReturn _ trivial fun _ _ => by nofun

end Program

/-! ### Returns to pointers -/

/-- The machine is well-formed and of the architecture, and the flow recorded
    so far fits. -/
structure Activation.Sound (a : Activation) (arch : Architecture) : Prop where
  wellFormed : a.machine.WellFormed
  architecture : a.machine.architecture = arch
  flow : a.flow.Fits arch

theorem Activation.sound_start (machine : Machine) (names : NameSupply) (h : machine.WellFormed) :
    (start machine names).Sound machine.architecture :=
  ⟨h, rfl, trivial⟩

theorem Activation.sound_iff (a : Activation) (arch : Architecture) :
    a.Sound arch ↔
      a.Holds (fun machine => machine.WellFormed ∧ machine.architecture = arch)
        (fun target => target.Fits ∧ target.bits = arch.bits) := by
  constructor
  · intro h
    exact ⟨⟨h.wellFormed, h.architecture⟩, (a.flow.fits_iff arch).mp h.flow⟩
  · intro h
    exact ⟨h.machine.1, h.machine.2, (a.flow.fits_iff arch).mpr h.flow⟩

/-- A run keeps an activation sound. -/
theorem Program.sound_run (setting : Setting) (arch : Architecture)
    (hlink : setting.registry.LinksPointer arch)
    (hsetting : setting.invocation.architecture = arch) (program : Program)
    (hfits : program.MakesFitting) (a : Activation) (h : a.Sound arch) :
    (program.run setting a).activation.Sound arch := by
  rw [Activation.sound_iff] at h ⊢
  exact (program.holds_run setting (setting.keeps_wellFormed arch hlink hsetting)
    (fun _ htarget => htarget.1) hfits a h).1

/-- A bound summary that makes fitting values leaves a well-formed machine, and
    goes on to a fitting target if it returns. -/
theorem Bound.sound_execute (bound : Bound) (registry : Registry) (machine : Machine)
    (names : NameSupply) (hlink : registry.LinksPointer machine.architecture)
    (hbound : bound.invocation.architecture = machine.architecture)
    (hfits : bound.summary.program.MakesFitting) (h : machine.WellFormed) :
    (bound.execute registry machine names).machine.WellFormed ∧
      (bound.execute registry machine names).machine.architecture = machine.architecture ∧
      ∀ successors, (bound.execute registry machine names).result = .ok successors →
        successors.flow.Fits machine.architecture := by
  have hsound := bound.summary.program.sound_run ⟨registry, bound.invocation⟩
    machine.architecture hlink hbound hfits _ (Activation.sound_start machine names h)
  refine ⟨hsound.wellFormed, hsound.architecture, ?_⟩
  intro successors hresult
  rw [((bound.execute_result_eq_ok_iff registry machine names successors).mp hresult).2]
  exact hsound.flow

namespace Summary

theorem makesFitting_returnUnconstrained : returnUnconstrained.program.MakesFitting := by
  refine Program.makesFitting_ask .returnRegister _ trivial fun register _ => ?_
  refine Program.makesFitting_ask (.freshName _) _ trivial fun name _ => ?_
  exact Program.makesFitting_ask (.setReturn _) _ (Value.fits_symbol name register.bits)
    fun _ _ => Program.makesFitting_doReturn

theorem makesFitting_returnConstant (word : Word) :
    (returnConstant word).program.MakesFitting := by
  refine Program.makesFitting_ask .returnRegister _ trivial fun register _ => ?_
  exact Program.makesFitting_ask (.setReturn _) _ (Value.fits_constant word register.bits)
    fun _ _ => Program.makesFitting_doReturn

theorem makesFitting_returnVoid : returnVoid.program.MakesFitting :=
  Program.makesFitting_doReturn

theorem makesFitting_returnArgument (index : Nat) :
    (returnArgument index).program.MakesFitting :=
  Program.makesFitting_ask (.forwardArgument index) _ trivial
    fun _ _ => Program.makesFitting_doReturn

theorem makesFitting_exit : exit.program.MakesFitting := by
  refine Program.makesFitting_ask (.argument 0) _ trivial fun status hstatus => ?_
  refine Program.makesFitting_ask .halt _ trivial fun _ _ => ?_
  intro value hvalue
  rw [← Option.some.inj hvalue]
  exact hstatus

end Summary

end CallSummary
