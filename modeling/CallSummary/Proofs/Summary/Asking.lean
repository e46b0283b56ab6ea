import CallSummary.Proofs.Call.WayBack
import CallSummary.Proofs.Summary.Binding
import CallSummary.Proofs.Summary.Forest

/-!
# Programs That Only Ask

The programs that perform one operation after the other and give up at the
first fault.

Such a program is its operations in a row, and `outcome_ask` says so: what it
comes to on a frame is what the first operation answers, gone on with by the
rest. The frame that is left is there for failures too, so the equation also
tells what a program has done before it gave up. It splits off nothing, and
what its execution hands over is read off that outcome alone
(`handover_execute`, `execute_of_error`).

Most of them end by handing a value back: it is written to the return register,
and then the return is made. `outcome_handBack_eq_done_iff` says when both
succeed, in terms of the machine before either, and
`outcome_handBack_of_failed` how far the two come otherwise.

## Main definitions

* `Program.outcome`: What a program comes to on a frame.
* `Program.ForksNothing`: The program splits off nothing.
* `Program.handBack`: Write the return value and go back.
* `Handover`, `Execution.handover`: Everything an execution hands over when it
  succeeds.

## Theorems

* `act_argument`, `act_setReturn`, `act_doReturn`, `act_forwardArgument`: The
  services of a call, on a frame.
* `result_act_doReturn`: Whether a return succeeds is up to the machine.
* `act_setReturn_eq_done_iff`, `act_doReturn_eq_done_iff`: When a return value
  is written, and when a return succeeds.
* `act_setReturn_of_failed`, `act_doReturn_of_failed`: Either changes nothing
  otherwise.
* `outcome_ask`, `outcome_step`: The operations of a program in a row.
* `outcome_doReturn_eq_done_iff`, `outcome_doReturn_of_failed`: Going back.
* `outcome_handBack_eq_done_iff`, `outcome_handBack_of_failed`: Handing a value
  back.
* `outcome_forwardArgument`: Handing an argument back.
* `handover_execute`: What an execution hands over.
* `execute_of_error`: What an execution leaves that fails.
-/

namespace CallSummary

namespace Operation

variable (setting : Setting)

-- Reading an argument only reports, and a frame holds no reports.
theorem act_argument (index : Nat) (frame : Frame) :
    act setting (.argument index) frame =
      ⟨(frame.bare.argument setting index).result, frame⟩ := by
  have hframe : (frame.bare.argument setting index).state.frame = frame := by
    rcases frame.bare.argument_extends setting index with ⟨events, hafter⟩
    rw [hafter]
    rfl
  unfold act Outcome.mapState
  rw [Outcome.mk.injEq]
  exact ⟨rfl, hframe⟩

theorem act_setReturn (value : Value) (frame : Frame) :
    act setting (.setReturn value) frame =
      match setting.returnRegister with
      | .error fault => .failed fault frame
      | .ok register =>
        if value.bits = register.bits then
          .done () { frame with machine := frame.machine.assign register.offset value }
        else
          .failed (.access (.invalidArguments (.registerWidth register value.bits))) frame := by
  unfold act perform Activation.setReturn
  cases setting.returnRegister with
  | error fault => rfl
  | ok register =>
      by_cases hbits : value.bits = register.bits
      · have hwrite := frame.machine.writeRegister_of_bits register value hbits
        simp only [Activation.onMachine, Activation.machine_report, Frame.bare, hwrite,
          if_pos hbits]
        rfl
      · have hwrite := frame.machine.writeRegister_of_ne register value hbits
        simp only [Activation.onMachine, Activation.machine_report, Frame.bare, hwrite,
          if_neg hbits]
        rfl

theorem act_doReturn (frame : Frame) :
    act setting .doReturn frame =
      match setting.returnSequence with
      | .error fault => .failed fault frame
      | .ok sequence =>
        match (frame.machine.takeReturn sequence).result with
        | .ok target =>
          .done target
            { frame with machine := frame.machine.pastReturn sequence, flow := .returnTo target }
        | .error cause => .failed (.access cause) frame := by
  show (frame.bare.doReturn setting).mapState Activation.frame = _
  cases hsequence : setting.returnSequence with
  | error fault =>
      rw [frame.bare.doReturn_of_unknown setting fault hsequence]
      rfl
  | ok sequence =>
      have hatomic := frame.machine.takeReturn_atomic sequence
      have hpast := frame.machine.state_of_takeReturn sequence
      rcases htake : frame.machine.takeReturn sequence with ⟨cause | target, machine⟩
      · -- A target that cannot be had leaves the machine as it was.
        have hmachine : machine = frame.machine := by
          rw [htake] at hatomic
          exact hatomic cause rfl
        rw [frame.bare.doReturn_of_failed setting sequence cause machine hsequence htake, hmachine]
        simp only [htake]
        rfl
      · have hmachine : machine = frame.machine.pastReturn sequence := by
          rw [htake] at hpast
          exact hpast target rfl
        rw [frame.bare.doReturn_of_done setting sequence target machine hsequence htake, hmachine]
        simp only [htake]
        rfl

/-- Whether a return succeeds is up to the machine. -/
theorem result_act_doReturn (frame : Frame) (names : NameSupply) :
    (act setting .doReturn frame).result =
      ((Activation.start frame.machine names).doReturn setting).result := by
  have hstart : ((Activation.start frame.machine names).doReturn setting).result =
      (act setting .doReturn ⟨frame.machine, names, .next⟩).result := rfl
  rw [hstart, act_doReturn, act_doReturn]
  cases setting.returnSequence with
  | error fault => rfl
  | ok sequence =>
      simp only
      cases (frame.machine.takeReturn sequence).result with
      | error cause => rfl
      | ok target => rfl

theorem act_forwardArgument (index : Nat) (frame : Frame) :
    act setting (.forwardArgument index) frame =
      (act setting (.argument index) frame).andThen fun value frame =>
        act setting (.setReturn value) frame := by
  have hset : ∀ (middle : Activation) (value : Value),
      (middle.setReturn setting value).mapState Activation.frame =
        act setting (.setReturn value) middle.frame := by
    intro middle value
    have hact := perform_eq_act setting (.setReturn value) middle
    unfold Outcome.mapState
    exact (Outcome.mk.injEq _ _ _ _).mpr ⟨hact.1, hact.2.1⟩
  exact (Outcome.mapState_andThen Activation.frame (frame.bare.argument setting index) _ _
    fun value middle => (hset middle value).symm).symm

/-- The return value is written if it is as wide as the return register. -/
theorem act_setReturn_eq_done_iff (value : Value) (frame after : Frame) :
    act setting (.setReturn value) frame = .done () after ↔
      ∃ register, setting.returnRegister = .ok register ∧ value.bits = register.bits ∧
        after = { frame with machine := frame.machine.assign register.offset value } := by
  rw [act_setReturn]
  cases setting.returnRegister with
  | error fault => simp only [Outcome.failed_ne_done, reduceCtorEq, false_and, exists_false]
  | ok register =>
      simp only [Except.ok.injEq, exists_eq_left']
      by_cases hbits : value.bits = register.bits
      · rw [if_pos hbits, Outcome.done_eq_done_iff]
        simp only [hbits, true_and, eq_comm]
      · rw [if_neg hbits, Outcome.failed_ne_done]
        simp only [hbits, false_and]

/-- A return value that cannot be written leaves the frame as it was. -/
theorem act_setReturn_of_failed (value : Value) (frame after : Frame) (fault : Fault)
    (h : act setting (.setReturn value) frame = .failed fault after) :
    (∀ register, setting.returnRegister = .ok register → value.bits ≠ register.bits) ∧
      after = frame := by
  rw [act_setReturn] at h
  cases hregister : setting.returnRegister with
  | error found =>
      simp only [hregister] at h
      cases h
      exact ⟨nofun, rfl⟩
  | ok register =>
      simp only [hregister] at h
      by_cases hbits : value.bits = register.bits
      · rw [if_pos hbits] at h
        cases h
      · rw [if_neg hbits] at h
        cases h
        refine ⟨?_, rfl⟩
        rintro _ ⟨⟩
        exact hbits

/-- A return needs the registry to know a way back, and nothing else. -/
theorem act_doReturn_eq_done_iff (target : Value) (frame after : Frame)
    (harch : setting.invocation.architecture = frame.machine.architecture) :
    act setting .doReturn frame = .done target after ↔
      ∃ back, setting.registry.LeadsBack frame.machine target back ∧
        after = { frame with machine := back, flow := .returnTo target } := by
  rw [act_doReturn]
  simp only [Registry.leadsBack_iff]
  constructor
  · intro h
    cases hsequence : setting.returnSequence with
    | error fault =>
        rw [hsequence] at h
        cases h
    | ok sequence =>
        simp only [hsequence] at h
        cases htake : (frame.machine.takeReturn sequence).result with
        | error cause =>
            rw [htake] at h
            cases h
        | ok found =>
            rw [htake] at h
            cases h
            rw [setting.returnSequence_eq_ok_iff, harch] at hsequence
            exact ⟨_, ⟨sequence, hsequence, htake, rfl⟩, rfl⟩
  · rintro ⟨_, ⟨sequence, hsequence, htake, rfl⟩, rfl⟩
    rw [← harch, ← setting.returnSequence_eq_ok_iff] at hsequence
    simp only [hsequence, htake]

/-- A return that fails changes nothing. -/
theorem act_doReturn_of_failed (frame after : Frame) (fault : Fault)
    (h : act setting .doReturn frame = .failed fault after) : after = frame := by
  rw [act_doReturn] at h
  cases hsequence : setting.returnSequence with
  | error found =>
      rw [hsequence] at h
      cases h
      rfl
  | ok sequence =>
      simp only [hsequence] at h
      cases htake : (frame.machine.takeReturn sequence).result with
      | error cause =>
          rw [htake] at h
          cases h
          rfl
      | ok target =>
          rw [htake] at h
          cases h

end Operation

namespace Program

/-- What the program comes to on a frame, apart from what it splits off. -/
def outcome (setting : Setting) (program : Program) (frame : Frame) :
    Outcome Frame Fault (Option Value) :=
  ⟨(program.evaluate setting frame).result, (program.evaluate setting frame).frame⟩

/-- Asking is performing an operation and going on with its answer. -/
theorem outcome_ask (setting : Setting) (op : Operation) (next : op.Reply → Program)
    (frame : Frame) :
    (ask op next).outcome setting frame =
      (op.act setting frame).andThen fun answer frame => (next answer).outcome setting frame := by
  simp only [outcome, ask, evaluate]
  rcases op.act setting frame with ⟨fault | answer, left⟩
  · rfl
  · rfl

theorem outcome_step (setting : Setting) (op : Operation) (next : Program) (frame : Frame) :
    (step op next).outcome setting frame =
      (op.act setting frame).andThen fun _ frame => next.outcome setting frame :=
  outcome_ask setting op (fun _ => next) frame

/-- The program splits off nothing, wherever it runs. -/
def ForksNothing (program : Program) : Prop :=
  ∀ (setting : Setting) (frame : Frame), (program.evaluate setting frame).forest = .empty

theorem forksNothing_finish (status : Option Value) : (finish status).ForksNothing :=
  fun _ _ => rfl

theorem forksNothing_ask (op : Operation) (next : op.Reply → Program)
    (h : ∀ answer, (next answer).ForksNothing) : (ask op next).ForksNothing := by
  intro setting frame
  simp only [ask, evaluate]
  cases (op.act setting frame).result with
  | error fault => rfl
  | ok answer => exact h answer setting _

theorem forksNothing_doReturn : doReturn.ForksNothing :=
  forksNothing_ask .doReturn _ fun _ => forksNothing_finish none

/-! ### Going back -/

section Back

variable (setting : Setting) (value : Value) (frame after : Frame) (status : Option Value)

/-- Write the return value and go back to the caller. -/
def handBack (value : Value) : Program :=
  step (.setReturn value) doReturn

theorem forksNothing_handBack : (handBack value).ForksNothing :=
  forksNothing_ask _ _ fun _ => forksNothing_doReturn

/-- Going back needs the registry to know a way back, and nothing else. -/
theorem outcome_doReturn_eq_done_iff
    (harch : setting.invocation.architecture = frame.machine.architecture) :
    doReturn.outcome setting frame = .done status after ↔
      status = none ∧ ∃ target back, setting.registry.LeadsBack frame.machine target back ∧
        after = { frame with machine := back, flow := .returnTo target } := by
  rw [doReturn, outcome_step, Outcome.andThen_eq_done_iff]
  constructor
  · rintro ⟨target, middle, hreturn, hdone⟩
    rcases (Operation.act_doReturn_eq_done_iff setting target frame middle harch).mp hreturn with
      ⟨back, hback, rfl⟩
    cases hdone
    exact ⟨rfl, target, back, hback, rfl⟩
  · rintro ⟨rfl, target, back, hback, rfl⟩
    exact ⟨target, _, (Operation.act_doReturn_eq_done_iff setting target frame _ harch).mpr
      ⟨back, hback, rfl⟩, rfl⟩

/-- Going back fails with the return, and has changed nothing by then. -/
theorem outcome_doReturn_of_failed (fault : Fault)
    (h : doReturn.outcome setting frame = .failed fault after) :
    after = frame ∧ (Operation.act setting .doReturn frame).result = .error fault := by
  rw [doReturn, outcome_step, Outcome.andThen_eq_failed_iff] at h
  rcases h with hreturn | ⟨target, middle, _, hdone⟩
  · refine ⟨Operation.act_doReturn_of_failed setting frame after fault hreturn, ?_⟩
    rw [hreturn, Outcome.result_failed]
  · cases hdone

/-- A value is handed back if the return register takes it and there was a way
    back before it was written. -/
theorem outcome_handBack_eq_done_iff
    (harch : setting.invocation.architecture = frame.machine.architecture)
    (hapart : setting.registry.KeepsApart frame.machine.architecture) :
    (handBack value).outcome setting frame = .done status after ↔
      status = none ∧ ∃ register target back,
        setting.registry.returnRegister? frame.machine.architecture = some register ∧
        value.bits = register.bits ∧ setting.registry.LeadsBack frame.machine target back ∧
        after = { frame with
          machine := back.assign register.offset value
          flow := .returnTo target } := by
  -- The write keeps the architecture, so the way back is that of the call.
  have hreturn : ∀ offset, doReturn.outcome setting
      { frame with machine := frame.machine.assign offset value } = .done status after ↔ _ :=
    fun offset => outcome_doReturn_eq_done_iff setting _ after status harch
  rw [handBack, outcome_step, Outcome.andThen_eq_done_iff]
  constructor
  · rintro ⟨⟨⟩, middle, hset, hdone⟩
    rcases (Operation.act_setReturn_eq_done_iff setting value frame middle).mp hset with
      ⟨register, hregister, hbits, rfl⟩
    rw [setting.returnRegister_eq_ok_iff, harch] at hregister
    rcases (hreturn register.offset).mp hdone with ⟨hstatus, target, moved, hmoved, rfl⟩
    rcases (setting.registry.leadsBack_assign frame.machine register value target moved hapart
      hregister).mp hmoved with ⟨back, hback, rfl⟩
    exact ⟨hstatus, register, target, back, hregister, hbits, hback, rfl⟩
  · rintro ⟨hstatus, register, target, back, hregister, hbits, hback, hafter⟩
    have hset := (Operation.act_setReturn_eq_done_iff setting value frame _).mpr
      ⟨register, by rw [setting.returnRegister_eq_ok_iff, harch, hregister], hbits, rfl⟩
    have hmoved := (setting.registry.leadsBack_assign frame.machine register value target _ hapart
      hregister).mpr ⟨back, hback, rfl⟩
    exact ⟨(), _, hset, (hreturn register.offset).mpr ⟨hstatus, target, _, hmoved, hafter⟩⟩

/-- A value that is not handed back has been written, and the return has failed
    on the machine with it, or it has not been written. -/
theorem outcome_handBack_of_failed (fault : Fault)
    (h : (handBack value).outcome setting frame = .failed fault after) :
    (∃ register, setting.returnRegister = .ok register ∧ value.bits = register.bits ∧
        after = { frame with machine := frame.machine.assign register.offset value } ∧
        (Operation.act setting .doReturn after).result = .error fault) ∨
      (∀ register, setting.returnRegister = .ok register → value.bits ≠ register.bits) ∧
        after = frame := by
  rw [handBack, outcome_step, Outcome.andThen_eq_failed_iff] at h
  rcases h with hset | ⟨⟨⟩, middle, hset, hfailed⟩
  · exact .inr (Operation.act_setReturn_of_failed setting value frame after fault hset)
  · rcases (Operation.act_setReturn_eq_done_iff setting value frame middle).mp hset with
      ⟨register, hregister, hbits, hmiddle⟩
    rcases outcome_doReturn_of_failed setting middle after fault hfailed with ⟨rfl, hreturn⟩
    exact .inl ⟨register, hregister, hbits, hmiddle, hreturn⟩

/-- Forwarding an argument is reading it and handing it back. -/
theorem outcome_forwardArgument (index : Nat) :
    (step (.forwardArgument index) doReturn).outcome setting frame =
      (Operation.act setting (.argument index) frame).andThen fun value frame =>
        (handBack value).outcome setting frame := by
  simp only [handBack, outcome_step]
  rw [Operation.act_forwardArgument, Outcome.andThen_assoc]

end Back

end Program

/-- Everything that an execution hands over. -/
structure Handover where
  successors : Successors
  machine : Machine
  names : NameSupply
  status : Option Value

/-- What the execution hands over, or why it gave up. -/
def Execution.handover (execution : Execution) : Except Fault Handover :=
  execution.result.map fun successors =>
    ⟨successors, execution.machine, execution.names, execution.bound.status⟩

namespace Bound

variable (bound : Bound) (registry : Registry) (machine : Machine) (names : NameSupply)

/-- What the program of a bound summary comes to on a machine. -/
def outcome : Outcome Frame Fault (Option Value) :=
  bound.summary.program.outcome ⟨registry, bound.invocation⟩ ⟨machine, names, .next⟩

/-- A summary that splits off nothing hands over the frame it has left. The
    status is that of an earlier run unless this one has left another. -/
theorem handover_execute (h : bound.summary.program.ForksNothing) (handover : Handover) :
    (bound.execute registry machine names).handover = .ok handover ↔
      ∃ status frame, bound.outcome registry machine names = .done status frame ∧
        handover = ⟨⟨frame.flow, []⟩, frame.machine, frame.names, status.or bound.status⟩ := by
  have hrun := bound.summary.program.refines_evaluate ⟨registry, bound.invocation⟩
    (.start machine names)
  have hforks := hrun.forks
  rw [h] at hforks
  have hresult : _ = (bound.outcome registry machine names).result := hrun.result
  have hframe : _ = (bound.outcome registry machine names).state := hrun.frame
  unfold Execution.handover execute
  -- What the run has left is all that the execution is made of.
  generalize bound.summary.program.run ⟨registry, bound.invocation⟩ (.start machine names) = run
    at hforks hresult hframe ⊢
  rcases run with ⟨result, ⟨machine', names', flow, forks, journal⟩, transcript⟩
  rcases hout : bound.outcome registry machine names with ⟨fault | status, frame⟩
  · rw [hout] at hresult
    cases hresult
    constructor
    · nofun
    · rintro ⟨_, _, hdone, _⟩
      exact ((Outcome.failed_ne_done fault _ frame _).mp hdone).elim
  · rw [hout] at hresult hframe
    cases hresult
    cases hframe
    cases hforks
    have hstatus : (bound.after ⟨.ok status, ⟨machine', names', flow, [], journal⟩,
        transcript⟩).status = status.or bound.status := by
      cases status with
      | none => rfl
      | some left => rfl
    simp only [Except.map, Except.ok.injEq, hstatus]
    constructor
    · intro hhandover
      exact ⟨status, _, rfl, hhandover.symm⟩
    · rintro ⟨_, _, hdone, rfl⟩
      cases hdone
      rfl

/-- A summary that fails leaves what its program has done so far, and is bound
    as before. -/
theorem execute_of_error (fault : Fault)
    (h : (bound.execute registry machine names).result = .error fault) :
    ∃ frame, bound.outcome registry machine names = .failed fault frame ∧
      (bound.execute registry machine names).machine = frame.machine ∧
      (bound.execute registry machine names).names = frame.names ∧
      (bound.execute registry machine names).bound = bound := by
  have hrun := bound.summary.program.refines_evaluate ⟨registry, bound.invocation⟩
    (.start machine names)
  have hresult : _ = (bound.outcome registry machine names).result := hrun.result
  have hframe : _ = (bound.outcome registry machine names).state := hrun.frame
  unfold execute at h ⊢
  generalize bound.summary.program.run ⟨registry, bound.invocation⟩ (.start machine names) = run
    at h hresult hframe ⊢
  rcases hout : bound.outcome registry machine names with ⟨found, frame⟩
  rw [hout] at hresult hframe
  rcases run with ⟨found | status, left, transcript⟩
  · cases h
    cases hresult
    cases hframe
    exact ⟨_, rfl, rfl, rfl, rfl⟩
  · cases h

end Bound

end CallSummary
