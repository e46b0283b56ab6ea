import CallSummary.Proofs.Summary.Asking

/-!
# Runs of the Library

What the summaries of the library come to, and what they leave when they fail.

All of them that return a value do the same. They find something out that
changes nothing but the supply of names (the return register, or an argument),
make the value of it, and hand it back. `Program.handOn` is that shape. It is
treated once, and the equations `outcome_returnConstant` and so on bring each
summary into it.

A run that succeeds is then described by the machine before it alone.
`handover_library` says so for all five summaries, under the one condition that
the return register is not where the return target is looked for. Without it
the value that is written may be in the way of the return, and the last theorem
of the module has such a case. What a failure leaves does not depend on the
condition: `Stock.execute_fails` tells apart the machines on which the write
came about from those on which it did not.

## Main definitions

* `Program.handOn`: Hand back a value that is made of what was found out.
* `Stock`, `Stock.summary`: The summaries of the library.
* `Stock.due`: The value that a summary is to return.
* `Stock.Writes`: The summary gets so far as to write the value.
* `Stock.Stopped`: The machine that a failure leaves.

## Theorems

* `handOn_eq_done_iff`, `handOn_of_failed`: When a value is handed on.
* `outcome_returnConstant` and others: The summaries, as operations in a row.
* `forksNothing_returnConstant` and others: None of them splits anything off.
* `handover_of_handOn`, `handover_of_returnRegister`: What is handed over with
  a value.
* `handover_library`: When the summaries succeed, and what they hand over.
* `stopped_of_handOn`, `stopped_of_failed`: Where they stop otherwise.
* `execute_fails`: What they have done when they fail.
-/

namespace CallSummary

namespace Program

section HandOn

variable {α : Type} (setting : Setting) (source : Except Fault α) (value : α → Value)
  (frame drawn after : Frame)

/-- Hand back a value that is made of what was found out. The names that are
    drawn for it are drawn only if there was something to find out. -/
def handOn : Outcome Frame Fault (Option Value) :=
  match source with
  | .error fault => .failed fault frame
  | .ok found => (handBack (value found)).outcome setting drawn

/-- A value is handed on if there is something to make it of, and it can be
    handed back. -/
theorem handOn_eq_done_iff (status : Option Value)
    (harch : setting.invocation.architecture = drawn.machine.architecture)
    (hapart : setting.registry.KeepsApart drawn.machine.architecture) :
    handOn setting source value frame drawn = .done status after ↔
      status = none ∧ ∃ found register target back, source = .ok found ∧
        setting.registry.returnRegister? drawn.machine.architecture = some register ∧
        (value found).bits = register.bits ∧
        setting.registry.LeadsBack drawn.machine target back ∧
        after = ⟨back.assign register.offset (value found), drawn.names, .returnTo target⟩ := by
  cases source with
  | error fault =>
      constructor
      · nofun
      · rintro ⟨_, _, _, _, _, ⟨⟩, _⟩
  | ok found =>
      have hback : handOn setting (.ok found) value frame drawn = .done status after ↔ _ :=
        outcome_handBack_eq_done_iff setting (value found) drawn after status harch hapart
      simp only [hback, Except.ok.injEq, exists_and_left, exists_eq_left']

/-- Otherwise there was nothing to make it of, or handing it back has failed. -/
theorem handOn_of_failed (fault : Fault)
    (h : handOn setting source value frame drawn = .failed fault after) :
    source = .error fault ∧ after = frame ∨
      ∃ found, source = .ok found ∧
        (handBack (value found)).outcome setting drawn = .failed fault after := by
  cases source with
  | error cause =>
      cases h
      exact .inl ⟨rfl, rfl⟩
  | ok found => exact .inr ⟨found, rfl, h⟩

end HandOn

end Program

namespace Summary

open Program

variable (setting : Setting) (frame : Frame)

theorem outcome_returnUnconstrained :
    returnUnconstrained.program.outcome setting frame =
      handOn setting setting.returnRegister
        (fun register =>
          .symbol (NameSupply.numbered "unconstrained_ret" frame.names.next.toNat) register.bits)
        frame { frame with names := ⟨frame.names.next + 1⟩ } := by
  have hask : Operation.act setting .returnRegister frame = ⟨setting.returnRegister, frame⟩ := rfl
  rw [returnUnconstrained, outcome_ask, hask]
  cases setting.returnRegister with
  | error fault => rfl
  | ok register => exact outcome_ask setting (.freshName "unconstrained_ret") _ frame

theorem outcome_returnConstant (word : Word) :
    (returnConstant word).program.outcome setting frame =
      handOn setting setting.returnRegister (fun register => .constant word register.bits)
        frame frame := by
  have hask : Operation.act setting .returnRegister frame = ⟨setting.returnRegister, frame⟩ := rfl
  rw [returnConstant, outcome_ask, hask]
  cases setting.returnRegister with
  | error fault => rfl
  | ok register => rfl

theorem outcome_returnArgument (index : Nat) :
    (returnArgument index).program.outcome setting frame =
      handOn setting (frame.bare.argument setting index).result id frame frame := by
  rw [returnArgument, outcome_forwardArgument, Operation.act_argument]
  cases (frame.bare.argument setting index).result with
  | error fault => rfl
  | ok value => rfl

theorem outcome_exit :
    exit.program.outcome setting frame =
      match (frame.bare.argument setting 0).result with
      | .error fault => .failed fault frame
      | .ok value => .done (some value) { frame with flow := .halt } := by
  rw [exit, outcome_ask, Operation.act_argument]
  cases (frame.bare.argument setting 0).result with
  | error fault => rfl
  | ok value => exact outcome_step setting .halt _ frame

theorem outcome_exit_eq_done_iff (status : Option Value) (after : Frame) :
    exit.program.outcome setting frame = .done status after ↔
      ∃ value, (frame.bare.argument setting 0).result = .ok value ∧
        status = some value ∧ after = { frame with flow := .halt } := by
  rw [outcome_exit]
  cases (frame.bare.argument setting 0).result with
  | error fault => simp only [Outcome.failed_ne_done, reduceCtorEq, false_and, exists_false]
  | ok value =>
      simp only [Outcome.done_eq_done_iff, Except.ok.injEq, exists_eq_left', eq_comm]

theorem outcome_exit_of_failed (fault : Fault) (after : Frame)
    (h : exit.program.outcome setting frame = .failed fault after) : after = frame := by
  rw [outcome_exit] at h
  cases hargument : (frame.bare.argument setting 0).result with
  | error found =>
      rw [hargument] at h
      cases h
      rfl
  | ok value =>
      rw [hargument] at h
      cases h

theorem forksNothing_returnUnconstrained : returnUnconstrained.program.ForksNothing := by
  refine forksNothing_ask .returnRegister _ fun register => ?_
  refine forksNothing_ask (.freshName _) _ fun name => ?_
  exact forksNothing_handBack _

theorem forksNothing_returnConstant (word : Word) :
    (returnConstant word).program.ForksNothing := by
  refine forksNothing_ask .returnRegister _ fun register => ?_
  exact forksNothing_handBack _

theorem forksNothing_returnArgument (index : Nat) :
    (returnArgument index).program.ForksNothing :=
  forksNothing_ask (.forwardArgument index) _ fun _ => forksNothing_doReturn

theorem forksNothing_exit : exit.program.ForksNothing := by
  refine forksNothing_ask (.argument 0) _ fun value => ?_
  exact forksNothing_ask .halt _ fun _ => forksNothing_finish _

end Summary

/-! ### Success -/

/-- A machine with 32-bit pointers that has been called. -/
def Machine.narrowCall : Machine :=
  ((withStackPointer .x86 0x1000).writeStack 0 (.constant 0x401000 32)).state

/-- A machine that has been called through its link register. -/
def Machine.linkedCall : Machine :=
  ((new .aarch64).writeRegister Aarch64.x30 (.constant 0x401000 64)).state

namespace Bound

section Success

variable (bound : Bound) (registry : Registry) (machine : Machine) (names drawn : NameSupply)
  (handover : Handover)

/-- What is handed over when a value is handed on. -/
theorem handover_of_handOn {α : Type} (source : Except Fault α) (value : α → Value)
    (hforks : bound.summary.program.ForksNothing)
    (hout : bound.outcome registry machine names =
      Program.handOn ⟨registry, bound.invocation⟩ source value ⟨machine, names, .next⟩
        ⟨machine, drawn, .next⟩)
    (harch : bound.invocation.architecture = machine.architecture)
    (hapart : registry.KeepsApart machine.architecture) :
    (bound.execute registry machine names).handover = .ok handover ↔
      ∃ found register target back, source = .ok found ∧
        registry.returnRegister? machine.architecture = some register ∧
        (value found).bits = register.bits ∧ registry.LeadsBack machine target back ∧
        handover = ⟨⟨.returnTo target, []⟩, back.assign register.offset (value found), drawn,
          bound.status⟩ := by
  rw [handover_execute bound registry machine names hforks, hout]
  have hdone := fun status frame =>
    Program.handOn_eq_done_iff ⟨registry, bound.invocation⟩ source value ⟨machine, names, .next⟩
      ⟨machine, drawn, .next⟩ frame status harch hapart
  constructor
  · rintro ⟨status, frame, h, rfl⟩
    rcases (hdone status frame).mp h with
      ⟨rfl, found, register, target, back, hfound, hregister, hbits, hback, rfl⟩
    exact ⟨found, register, target, back, hfound, hregister, hbits, hback, rfl⟩
  · rintro ⟨found, register, target, back, hfound, hregister, hbits, hback, rfl⟩
    exact ⟨none, _, (hdone none _).mpr
      ⟨rfl, found, register, target, back, hfound, hregister, hbits, hback, rfl⟩, rfl⟩

/-- A value that is made of the return register is as wide as the register, so
    nothing is asked of it. -/
theorem handover_of_returnRegister (value : Register → Value)
    (hvalue : ∀ register, (value register).bits = register.bits)
    (hforks : bound.summary.program.ForksNothing)
    (hout : bound.outcome registry machine names =
      Program.handOn ⟨registry, bound.invocation⟩
        (Setting.returnRegister ⟨registry, bound.invocation⟩) value ⟨machine, names, .next⟩
        ⟨machine, drawn, .next⟩)
    (harch : bound.invocation.architecture = machine.architecture)
    (hapart : registry.KeepsApart machine.architecture) :
    (bound.execute registry machine names).handover = .ok handover ↔
      ∃ register target back, registry.returnRegister? machine.architecture = some register ∧
        registry.LeadsBack machine target back ∧
        handover = ⟨⟨.returnTo target, []⟩, back.assign register.offset (value register), drawn,
          bound.status⟩ := by
  rw [bound.handover_of_handOn registry machine names drawn handover _ value hforks hout harch
    hapart]
  have hknown := Setting.returnRegister_eq_ok_iff ⟨registry, bound.invocation⟩
  simp only [harch] at hknown
  -- The register that was asked for is the one that is written.
  constructor
  · rintro ⟨found, register, target, back, hfound, hregister, _, hback, rfl⟩
    rw [hknown, hregister] at hfound
    cases hfound
    exact ⟨found, target, back, hregister, hback, rfl⟩
  · rintro ⟨register, target, back, hregister, hback, rfl⟩
    exact ⟨register, register, target, back, (hknown register).mpr hregister, hregister,
      hvalue register, hback, rfl⟩

theorem handover_returnVoid (call : Invocation) (status : Option Value)
    (harch : call.architecture = machine.architecture) :
    ((Bound.mk .returnVoid call status).execute registry machine names).handover = .ok handover ↔
      ∃ target back, registry.LeadsBack machine target back ∧
        handover = ⟨⟨.returnTo target, []⟩, back, names, status⟩ := by
  rw [handover_execute _ registry machine names Program.forksNothing_doReturn]
  have hdone := fun left frame =>
    Program.outcome_doReturn_eq_done_iff ⟨registry, call⟩ ⟨machine, names, .next⟩ frame left harch
  constructor
  · rintro ⟨left, frame, h, rfl⟩
    rcases (hdone left frame).mp h with ⟨rfl, target, back, hback, rfl⟩
    exact ⟨target, back, hback, rfl⟩
  · rintro ⟨target, back, hback, rfl⟩
    exact ⟨none, _, (hdone none _).mpr ⟨rfl, target, back, hback, rfl⟩, rfl⟩

/-- An exit ends execution where it is. It leaves its status in place of an
    earlier one. -/
theorem handover_exit (call : Invocation) (status : Option Value) :
    ((Bound.mk .exit call status).execute registry machine names).handover = .ok handover ↔
      ∃ value,
        ((Activation.start machine names).argument ⟨registry, call⟩ 0).result = .ok value ∧
          handover = ⟨⟨.halt, []⟩, machine, names, some value⟩ := by
  rw [handover_execute _ registry machine names Summary.forksNothing_exit]
  have hdone := Summary.outcome_exit_eq_done_iff ⟨registry, call⟩ ⟨machine, names, .next⟩
  constructor
  · rintro ⟨left, frame, h, rfl⟩
    rcases (hdone left frame).mp h with ⟨value, hargument, rfl, rfl⟩
    exact ⟨value, hargument, rfl⟩
  · rintro ⟨value, hargument, rfl⟩
    exact ⟨some value, _, (hdone _ _).mpr ⟨value, hargument, rfl, rfl⟩, rfl⟩

end Success

/-- When the summaries of the library succeed, and everything they hand over.
    A return needs the registry to lead back from the machine as it was, and a
    return value needs a return register as wide as it is. The machine handed
    over is the one past the return, with the value in the return register. -/
theorem handover_library (registry : Registry) (machine : Machine) (names : NameSupply)
    (caller : Option Word) (requested : Option CallingConvention) (status : Option Value)
    (handover : Handover) (hapart : registry.KeepsApart machine.architecture) :
    let call := registry.invocation machine.architecture caller requested
    let given := fun summary =>
      ((Bound.mk summary call status).execute registry machine names).handover
    let argument := fun index =>
      ((Activation.start machine names).argument ⟨registry, call⟩ index).result
    (∀ word, given (.returnConstant word) = .ok handover ↔
        ∃ register target back, registry.returnRegister? machine.architecture = some register ∧
          registry.LeadsBack machine target back ∧
          handover = ⟨⟨.returnTo target, []⟩,
            back.assign register.offset (.constant word register.bits), names, status⟩) ∧
      (given .returnUnconstrained = .ok handover ↔
        ∃ register target back, registry.returnRegister? machine.architecture = some register ∧
          registry.LeadsBack machine target back ∧
          handover = ⟨⟨.returnTo target, []⟩,
            back.assign register.offset
              (.symbol ("unconstrained_ret" ++ "_" ++ toString names.next.toNat) register.bits),
            ⟨names.next + 1⟩, status⟩) ∧
      (∀ index, given (.returnArgument index) = .ok handover ↔
        ∃ value register target back, argument index = .ok value ∧
          registry.returnRegister? machine.architecture = some register ∧
          value.bits = register.bits ∧ registry.LeadsBack machine target back ∧
          handover = ⟨⟨.returnTo target, []⟩, back.assign register.offset value, names,
            status⟩) ∧
      (given .returnVoid = .ok handover ↔
        ∃ target back, registry.LeadsBack machine target back ∧
          handover = ⟨⟨.returnTo target, []⟩, back, names, status⟩) ∧
      (given .exit = .ok handover ↔
        ∃ value, argument 0 = .ok value ∧
          handover = ⟨⟨.halt, []⟩, machine, names, some value⟩) := by
  intro call given argument
  have harch : call.architecture = machine.architecture := rfl
  refine ⟨?_, ?_, ?_, ?_, ?_⟩
  · intro word
    exact handover_of_returnRegister ⟨.returnConstant word, call, status⟩ registry machine names
      names handover _ (fun _ => rfl) (Summary.forksNothing_returnConstant word)
      (Summary.outcome_returnConstant _ _ word) harch hapart
  · exact handover_of_returnRegister ⟨.returnUnconstrained, call, status⟩ registry machine names
      ⟨names.next + 1⟩ handover _ (fun _ => rfl) Summary.forksNothing_returnUnconstrained
      (Summary.outcome_returnUnconstrained _ _) harch hapart
  · intro index
    exact handover_of_handOn ⟨.returnArgument index, call, status⟩ registry machine names names
      handover _ id (Summary.forksNothing_returnArgument index)
      (Summary.outcome_returnArgument _ _ index) harch hapart
  · exact handover_returnVoid registry machine names handover call status harch
  · exact handover_exit registry machine names handover call status

/-- On the way over the stack the word is cut to the width of the return
    register, and the stack pointer is past the slot. On the way through the
    link register the return register is all that has changed. -/
theorem handover_library_bothWays :
    Registry.builtin.KeepsApart .x86 ∧ Registry.builtin.KeepsApart .aarch64 ∧
      (∃ handover,
        ((Bound.mk (.returnConstant 0x100000001) (Registry.builtin.invocation .x86 none none)
          none).execute .builtin .narrowCall .zero).handover = .ok handover ∧
        handover.successors = ⟨.returnTo (.constant 0x401000 32), []⟩ ∧
        handover.machine.readRegister X86.eax = .ok (.constant 1 32) ∧
        handover.machine.readStackPointer = .ok 0x1004) ∧
      ((Bound.mk .returnUnconstrained (Registry.builtin.invocation .aarch64 none none)
        none).execute .builtin .linkedCall ⟨6⟩).handover =
          .ok ⟨⟨.returnTo (.constant 0x401000 64), []⟩,
            Machine.linkedCall.assign Aarch64.x0.offset (.symbol "unconstrained_ret_6" 64),
            ⟨7⟩, none⟩ := by
  have hnarrow := Registry.keepsApart_builtin .x86
  have hlinked := Registry.keepsApart_builtin .aarch64
  have hpop : Registry.builtin.LeadsBack .narrowCall (.constant 0x401000 32) _ :=
    .popStack 0x1000 _ rfl rfl rfl (by decide)
  have hlink : Registry.builtin.LeadsBack .linkedCall (.constant 0x401000 64) .linkedCall :=
    .linkRegister Aarch64.x30 _ rfl rfl rfl
  have hreturned := ((handover_library .builtin .narrowCall .zero none none none _ hnarrow).1
    0x100000001).mpr ⟨X86.eax, _, _, rfl, hpop, rfl⟩
  refine ⟨hnarrow, hlinked, ⟨_, hreturned, rfl, rfl, rfl⟩, ?_⟩
  exact (handover_library .builtin .linkedCall ⟨6⟩ none none none _ hlinked).2.1.mpr
    ⟨Aarch64.x0, _, _, rfl, hlink, rfl⟩

end Bound

/-! ### Failure -/

/-- The summaries of the library. -/
inductive Stock where
  | unconstrained
  | constant (word : Word)
  | void
  | argument (index : Nat)
  | exit
deriving DecidableEq

namespace Stock

/-- The summary itself. -/
def summary : Stock → Summary
  | unconstrained => .returnUnconstrained
  | constant word => .returnConstant word
  | void => .returnVoid
  | argument index => .returnArgument index
  | exit => .exit

variable (stock : Stock) (setting : Setting) (machine : Machine) (names : NameSupply)

/-- The value that the summary is to return in the register, if it returns one
    and can find it out. -/
def due (register : Register) : Stock → Option Value
  | unconstrained =>
    some (.symbol (NameSupply.numbered "unconstrained_ret" names.next.toNat) register.bits)
  | constant word => some (.constant word register.bits)
  | argument index => ((Activation.start machine names).argument setting index).result.toOption
  | void => none
  | exit => none

/-- The summary gets so far as to write the value to the return register. -/
def Writes (register : Register) (value : Value) : Prop :=
  setting.returnRegister = .ok register ∧
    stock.due setting machine names register = some value ∧
    (machine.writeRegister register value).result = .ok ()

/-- The machine that the summary leaves when it has failed. Either it holds the
    value that was to be returned and has not returned, or it is the same as
    before, and nothing could be written. -/
def Stopped (fault : Fault) (left : Machine) : Prop :=
  (∃ register value, stock.Writes setting machine names register value ∧
      left = machine.assign register.offset value ∧
      ((Activation.start left names).doReturn setting).result = .error fault) ∨
    (∀ register value, ¬ stock.Writes setting machine names register value) ∧ left = machine

/-- A summary that hands on a value stops as every one does, if what it hands on
    is what is due. -/
theorem stopped_of_handOn {α : Type} (source : Except Fault α) (value : α → Value)
    (drawn : NameSupply) (after : Frame) (fault : Fault)
    (hdue : ∀ register, setting.returnRegister = .ok register →
      stock.due setting machine names register = source.toOption.map value)
    (h : Program.handOn setting source value ⟨machine, names, .next⟩ ⟨machine, drawn, .next⟩ =
      .failed fault after) :
    stock.Stopped setting machine names fault after.machine ∧
      after.names = if source.isOk then drawn else names := by
  rcases Program.handOn_of_failed setting source value _ _ after fault h with
    ⟨rfl, rfl⟩ | ⟨found, rfl, hback⟩
  · -- Nothing was found out, so nothing was due.
    refine ⟨.inr ⟨?_, rfl⟩, rfl⟩
    rintro register written ⟨hregister, hwritten, _⟩
    rw [hdue register hregister] at hwritten
    cases hwritten
  · rcases Program.outcome_handBack_of_failed setting (value found) _ after fault hback with
      ⟨register, hregister, hbits, rfl, hreturn⟩ | ⟨hbits, rfl⟩
    · -- It was written, and the return has failed on the machine with it.
      refine ⟨.inl ⟨register, value found, ⟨hregister, hdue register hregister, ?_⟩, rfl, ?_⟩, rfl⟩
      · exact (machine.writeRegister_result_ok_iff register (value found)).mpr hbits
      · rw [← Operation.result_act_doReturn]
        exact hreturn
    · -- The return register does not take a value of that width.
      refine ⟨.inr ⟨?_, rfl⟩, rfl⟩
      rintro register written ⟨hregister, hwritten, hwrite⟩
      rw [hdue register hregister] at hwritten
      cases hwritten
      exact hbits register hregister ((machine.writeRegister_result_ok_iff register _).mp hwrite)

/-- What a summary has come to that fails. -/
theorem stopped_of_failed (after : Frame) (fault : Fault)
    (h : stock.summary.program.outcome setting ⟨machine, names, .next⟩ = .failed fault after) :
    stock.Stopped setting machine names fault after.machine ∧
      after.names =
        if stock = .unconstrained ∧ setting.returnRegister.isOk then ⟨names.next + 1⟩
        else names := by
  cases stock with
  | unconstrained =>
      rw [summary, Summary.outcome_returnUnconstrained] at h
      have hstopped := stopped_of_handOn .unconstrained setting machine names _ _ _ after fault
        (fun register hregister => by rw [hregister]; rfl) h
      simpa only [true_and] using hstopped
  | constant word =>
      rw [summary, Summary.outcome_returnConstant] at h
      have hstopped := stopped_of_handOn (.constant word) setting machine names _ _ _ after fault
        (fun register hregister => by rw [hregister]; rfl) h
      simpa only [reduceCtorEq, false_and, if_false, ite_self] using hstopped
  | argument index =>
      rw [summary, Summary.outcome_returnArgument] at h
      have hstopped := stopped_of_handOn (.argument index) setting machine names _ _ _ after fault
        (fun register _ => Option.map_id'.symm) h
      simpa only [reduceCtorEq, false_and, if_false, ite_self] using hstopped
  -- For the other two nothing is due, and they have changed nothing.
  | void =>
      rcases Program.outcome_doReturn_of_failed setting _ after fault h with ⟨rfl, _⟩
      exact ⟨.inr ⟨nofun, rfl⟩, rfl⟩
  | exit =>
      rw [Summary.outcome_exit_of_failed setting _ fault after h]
      exact ⟨.inr ⟨nofun, rfl⟩, rfl⟩

/-- What a summary of the library has done when it fails. The value that it was
    to return has been written, and then the return has failed, or the machine
    is as it was. A name is used up exactly if one was drawn, which needs no
    more than a return register to write it to, and the numbers of names count
    up as long as they last. A status that was left before is still there. -/
theorem execute_fails (registry : Registry) (call : Invocation) (status : Option Value)
    (fault : Fault)
    (hfault : ((Bound.mk stock.summary call status).execute registry machine names).result =
      .error fault) :
    let execution := (Bound.mk stock.summary call status).execute registry machine names
    stock.Stopped ⟨registry, call⟩ machine names fault execution.machine ∧
      (stock = .void ∨ stock = .exit → execution.machine = machine) ∧
      execution.names =
        (if stock = .unconstrained ∧ (registry.returnRegister? call.architecture).isSome then
          ⟨names.next + 1⟩
        else names) ∧
      (names.next.toNat + 1 < 2 ^ 64 →
        execution.names.next.toNat =
          if stock = .unconstrained ∧ (registry.returnRegister? call.architecture).isSome then
            names.next.toNat + 1
          else names.next.toNat) ∧
      execution.bound = ⟨stock.summary, call, status⟩ := by
  intro execution
  -- The execution leaves what the program had come to by then.
  rcases (Bound.mk stock.summary call status).execute_of_error registry machine names fault hfault
    with ⟨after, hout, hmachine, hnames, hbound⟩
  rcases stock.stopped_of_failed ⟨registry, call⟩ machine names after fault hout with
    ⟨hstopped, hdrawn⟩
  rw [← hmachine] at hstopped
  rw [← hnames, Setting.isOk_returnRegister] at hdrawn
  refine ⟨hstopped, ?_, hdrawn, ?_, hbound⟩
  · intro hstock
    rcases hstopped with ⟨register, value, ⟨_, hdue, _⟩, _⟩ | ⟨_, hleft⟩
    · rcases hstock with rfl | rfl
      · cases hdue
      · cases hdue
    · exact hleft
  · intro hroom
    rw [hdrawn]
    split
    next => exact names.toNat_next_add 1 (by omega)
    next => rfl

/-- A registry in which the return register is the stack pointer. -/
def aliasing : Registry :=
  Registry.builtin.setReturnRegister .x86 Architecture.x86.stackPointer

/-- The value that is written sends the return to a slot that is not there, and
    stays where it is. -/
theorem execute_fails_aliasing :
    let call := aliasing.invocation .x86 none none
    let execution :=
      (Bound.mk (Summary.returnConstant 7) call none).execute aliasing .narrowCall .zero
    execution.result = .error (.access (.undefinedStack 7)) ∧
      (constant 7).Stopped ⟨aliasing, call⟩ .narrowCall .zero (.access (.undefinedStack 7))
        execution.machine ∧
      execution.machine = Machine.narrowCall.setStackPointer 7 := by
  intro call execution
  have hfault : execution.result = .error (.access (.undefinedStack 7)) := rfl
  have hfails := execute_fails (constant 7) .narrowCall .zero aliasing call none _ hfault
  exact ⟨hfault, hfails.1, rfl⟩

end Stock

end CallSummary
