import CallSummary.Proofs.Call.RoundTrip
import CallSummary.Proofs.Machine.AddressSpace
import CallSummary.Proofs.Summary.Fitting
import CallSummary.Proofs.Summary.LibraryRuns

/-!
# What Machines Hold

Every machine in use is well-formed, and a call relies on it.

A machine is changed by accesses, by blocks and by the operations of programs,
and a program leaves machines in its forks as well. `Machine.Arises` has one
constructor for each of these, over any registry and with any register in an
access, be it one of the architecture or one that lies across it. As long as
the values that are written fit, nothing arises that single accesses would not
have led to (`arises_iff_reachable`). So what accesses keep is an invariant of
all machines in use: slots are as wide as a pointer, and words fit.

The values that fit are those that can be made at all. They are the constants,
which are cut, the symbols, and the machine numbers, which are constants.

A call with a built-in convention then never meets a value of another width.
An argument is in a slot, or in a register of the tables that is as wide as a
pointer, and so is a return target. The return register is as wide as well, so
an argument that was read can be returned (`forwardArgument_eq_done`), and all
that can still fail is the return itself.

## Main definitions

* `Value.Made`: The values that can be made.
* `Access.Fits`: An access that writes nothing but what fits.
* `Machine.Arises`: The machines that accesses, blocks and programs lead to.
* `Machine.calling`: The setting of a call on a machine.

## Theorems

* `fits_iff_made`: The values that fit.
* `arises_iff_reachable`: The machines in use.
* `argument_bits`, `doReturn_bits`: Arguments and return targets have pointer
  width.
* `forwardArgument_eq_done`: What was read as an argument can be returned.
* `representation_invariant`: The invariant of machines, and what calls make of
  it.
-/

namespace CallSummary

/-- The values that can be made: constants, symbols and machine numbers. -/
inductive Value.Made : Value → Prop
  | constant (word : Word) (bits : Nat) : Made (.constant word bits)
  | symbol (name : String) (bits : Nat) : Made (.symbol name bits)
  | ofUInt8 (n : UInt8) : Made (.ofUInt8 n)
  | ofUInt16 (n : UInt16) : Made (.ofUInt16 n)
  | ofUInt32 (n : UInt32) : Made (.ofUInt32 n)
  | ofUInt64 (n : UInt64) : Made (.ofUInt64 n)

theorem Value.fits_iff_made (value : Value) : value.Fits ↔ value.Made := by
  constructor
  · intro h
    rcases value.fits_iff.mp h with ⟨word, bits, rfl⟩ | ⟨name, bits, rfl⟩
    · exact .constant word bits
    · exact .symbol name bits
  · intro h
    cases h with
    | constant word bits => exact fits_constant word bits
    | symbol name bits => exact fits_symbol name bits
    | ofUInt8 n => exact fits_constant n.toUInt64 8
    | ofUInt16 n => exact fits_constant n.toUInt64 16
    | ofUInt32 n => exact fits_constant n.toUInt64 32
    | ofUInt64 n => exact fits_constant n 64

/-- The value that the access writes fits, if it writes one. -/
def Access.Fits : Access → Prop
  | .writeRegister _ value => value.Fits
  | .writeStack _ value => value.Fits
  | .push value => value.Fits
  | .pop => True

namespace Machine

theorem reachable_leave (machine : Machine) (access : Access) (h : machine.Reachable)
    (hfits : access.Fits) : (access.leave machine).Reachable := by
  cases access with
  | writeRegister register value => exact .writeRegister machine register value h hfits
  | writeStack offset value => exact .writeStack machine offset value h hfits
  | push value => exact .push machine value h hfits
  | pop => exact .pop machine h

theorem reachable_nameRegisters (registers : List Register) :
    ∀ machine : Machine, machine.Reachable → (machine.nameRegisters registers).Reachable := by
  induction registers with
  | nil => exact fun _ h => h
  | cons register rest ih =>
      intro machine h
      rw [nameRegisters, List.foldl_cons]
      refine ih _ ?_
      -- The stack pointer is known already, and is passed over.
      by_cases hsp : register = machine.architecture.stackPointer
      · rw [if_pos hsp]
        exact h
      · rw [if_neg hsp]
        exact .writeRegister machine register _ h (Value.fits_symbol register.name register.bits)

theorem reachable_nameSlots (offsets : List Offset) :
    ∀ machine : Machine, machine.Reachable → (machine.nameSlots offsets).Reachable := by
  induction offsets with
  | nil => exact fun _ h => h
  | cons offset rest ih =>
      intro machine h
      rw [nameSlots, List.foldl_cons]
      exact ih _ (.writeStack machine offset _ h (Value.fits_symbol (slotName offset) _))

-- The samples are filled by accesses, all of them with symbols but the last.
theorem reachable_origin (arch : Architecture) (origin : Origin) :
    (origin.machine arch).Reachable := by
  have hsample : (sample arch).Reachable :=
    reachable_nameSlots _ _ (reachable_nameRegisters _ _
      (.withStackPointer arch sampleStackPointer))
  cases origin with
  | new => exact .new arch
  | withStackPointer address => exact .withStackPointer arch address
  | sample => exact hsample
  | sampleCall =>
      have haddress := Value.fits_constant sampleReturnAddress arch.bits
      change (sampleCall arch).Reachable
      unfold sampleCall
      split
      next register _ => exact .writeRegister _ register _ hsample haddress
      next => exact .writeStack _ 0 _ hsample haddress

/-- A machine that accesses, blocks and programs lead to. A block or a program
    leaves a machine even if it fails, and a program that succeeds leaves the
    machines of its forks as well. -/
inductive Arises : Machine → Prop
  | origin (arch : Architecture) (origin : Origin) : Arises (origin.machine arch)
  | access (machine : Machine) (access : Access) :
      Arises machine → access.Fits → Arises (access.leave machine)
  | block (registry : Registry) (block : Block) (machine : Machine) :
      Arises machine → Arises (block.execute registry machine).state
  | operation (setting : Setting) (op : Operation) (a : Activation) :
      Arises a.machine → op.MakesFitting → Arises (op.perform setting a).state.machine
  | execution (bound : Bound) (registry : Registry) (machine : Machine) (names : NameSupply) :
      Arises machine → bound.summary.program.MakesFitting →
      Arises (bound.execute registry machine names).machine
  | fork (bound : Bound) (registry : Registry) (machine : Machine) (names : NameSupply)
      (successors : Successors) (successor : Successor) :
      Arises machine → bound.summary.program.MakesFitting →
      (bound.execute registry machine names).result = .ok successors →
      successor ∈ successors.forks → Arises successor.machine

end Machine

/-- An operation makes accesses, whatever flow has been recorded before. -/
theorem Operation.reachable_perform (setting : Setting) (op : Operation) (a : Activation)
    (hop : op.MakesFitting) (h : a.machine.Reachable) :
    (op.perform setting a).state.machine.Reachable := by
  have hkeeps : setting.Keeps Machine.Reachable fun _ => True :=
    ⟨Machine.invariant_reachable, fun _ _ _ _ _ _ => trivial⟩
  have hflow : a.flow.Targets fun _ => True := by
    cases a.flow with
    | returnTo target => trivial
    | next => trivial
    | halt => trivial
  exact (op.holds_perform setting a hkeeps hop ⟨h, hflow⟩).machine

/-- An execution makes accesses, and so does every fork of it. -/
theorem Bound.reachable_execute (bound : Bound) (registry : Registry) (machine : Machine)
    (names : NameSupply) (hfits : bound.summary.program.MakesFitting) (h : machine.Reachable) :
    (bound.execute registry machine names).machine.Reachable ∧
      ∀ successors, (bound.execute registry machine names).result = .ok successors →
        ∀ successor ∈ successors.forks, successor.machine.Reachable := by
  let setting : Setting := ⟨registry, bound.invocation⟩
  rcases bound.summary.program.holds_run setting
    (setting.keeps_of_invariant _ Machine.invariant_reachable) (fun _ htarget => htarget) hfits
    (.start machine names) (Activation.holds_start machine names h) with ⟨hleft, _, hforks⟩
  refine ⟨hleft.machine, ?_⟩
  intro successors hresult successor hsuccessor
  rw [((bound.execute_result_eq_ok_iff registry machine names successors).mp hresult).2]
    at hsuccessor
  -- The execution has started without a fork.
  rcases hforks successor hsuccessor with hnone | hholds
  · exact absurd hnone List.not_mem_nil
  · exact hholds.machine

namespace Machine

/-- Nothing arises that single accesses would not have led to. -/
theorem arises_iff_reachable (machine : Machine) : machine.Arises ↔ machine.Reachable := by
  constructor
  · -- Whatever a machine arises by makes accesses to the one before.
    intro h
    induction h with
    | origin arch origin => exact reachable_origin arch origin
    | access machine access _ hfits ih => exact machine.reachable_leave access ih hfits
    | block registry block machine _ ih =>
        exact invariant_reachable.execute registry block machine ih
    | operation setting op a _ hop ih => exact op.reachable_perform setting a hop ih
    | execution bound registry machine names _ hfits ih =>
        exact (bound.reachable_execute registry machine names hfits ih).1
    | fork bound registry machine names successors successor _ hfits hresult hmem ih =>
        exact (bound.reachable_execute registry machine names hfits ih).2 successors hresult
          successor hmem
  · -- And every access is one way to arise.
    intro h
    induction h with
    | new arch => exact .origin arch .new
    | withStackPointer arch address => exact .origin arch (.withStackPointer address)
    | writeRegister machine register value _ hvalue ih =>
        exact .access machine (.writeRegister register value) ih hvalue
    | writeStack machine offset value _ hvalue ih =>
        exact .access machine (.writeStack offset value) ih hvalue
    | push machine value _ hvalue ih => exact .access machine (.push value) ih hvalue
    | pop machine _ ih => exact .access machine .pop ih trivial

end Machine

/-! ### Widths of a call -/

theorem Stock.makesFitting (stock : Stock) : stock.summary.program.MakesFitting := by
  cases stock with
  | unconstrained => exact Summary.makesFitting_returnUnconstrained
  | constant word => exact Summary.makesFitting_returnConstant word
  | void => exact Summary.makesFitting_returnVoid
  | argument index => exact Summary.makesFitting_returnArgument index
  | exit => exact Summary.makesFitting_exit

theorem Registry.exists_returnSequence_builtin (arch : Architecture) :
    ∃ sequence, Registry.builtin.returnSequence? arch = some sequence := by
  cases arch <;> exact ⟨_, rfl⟩

theorem Registry.returnRegister_builtin (arch : Architecture) :
    ∃ register, Registry.builtin.returnRegister? arch = some register ∧
      register.bits = arch.bits := by
  cases arch <;> exact ⟨_, rfl, rfl⟩

/-- The setting of a call on the machine, with the built-in conventions. -/
def Machine.calling (machine : Machine) (caller : Option Word)
    (convention : Option CallingConvention) : Setting :=
  ⟨.builtin, ⟨caller, machine.architecture, convention⟩⟩

namespace Machine

variable (machine : Machine) (caller : Option Word) (convention : Option CallingConvention)

-- The tables place arguments in registers of pointer width.
theorem calling_location_bits (index : Nat) (register : Register)
    (h : (machine.calling caller convention).location index = .ok (.register register)) :
    register.bits = machine.architecture.bits := by
  rcases (Setting.location_eq_ok_iff _ index _).mp h with ⟨placement, hplacement, hlocation⟩
  rw [Setting.placement_eq_ok_iff, Option.bind_eq_some_iff] at hplacement
  rcases hplacement with ⟨used, _, hrow⟩
  rcases Registry.exists_returnSequence_builtin machine.architecture with ⟨sequence, hsequence⟩
  have hagrees := Placement.agrees_builtin _ used placement sequence hrow hsequence
  exact hagrees.bits register
    (List.mem_append_left _ (placement.mem_of_location index register hlocation))

end Machine

namespace Activation

variable (a : Activation) (caller : Option Word) (convention : Option CallingConvention)

theorem argument_bits (index : Nat) (value : Value) (h : a.machine.WellFormed)
    (hvalue : (a.argument (a.machine.calling caller convention) index).result = .ok value) :
    value.bits = a.machine.architecture.bits := by
  rcases (a.result_argument_eq_ok_iff _ index value).mp hvalue with ⟨location, hlocation, hread⟩
  refine a.machine.readLocation_bits location value h ?_ hread
  rintro register rfl
  exact a.machine.calling_location_bits caller convention index register hlocation

theorem doReturn_bits (target : Value) (h : a.machine.WellFormed)
    (htarget : (a.doReturn (a.machine.calling caller convention)).result = .ok target) :
    target.bits = a.machine.architecture.bits := by
  rcases (doReturn_eq_done_iff a _ _ target).mp (Outcome.eq_done_of_result _ target htarget) with
    ⟨sequence, machine, hsequence, htake, _⟩
  -- A slot has pointer width anyway, so what is left are the link registers.
  refine a.machine.takeReturn_bits sequence target h ?_ (by rw [htake]; rfl)
  intro link hlink
  rw [Setting.returnSequence_eq_ok_iff, hlink] at hsequence
  exact link.bits_of_size _ (Registry.linksPointer_builtin _ link hsequence)

-- A value of pointer width can be returned. The activation is not the one that
-- the call was set for, since an argument may have been read in between.
theorem setReturn_eq_done (b : Activation) (value : Value)
    (hvalue : value.bits = a.machine.architecture.bits) :
    ∃ written, b.setReturn (a.machine.calling caller convention) value = .done () written := by
  rcases Registry.returnRegister_builtin a.machine.architecture with ⟨register, hregister, hbits⟩
  have hreturn : (a.machine.calling caller convention).returnRegister = .ok register :=
    (Setting.returnRegister_eq_ok_iff _ register).mpr hregister
  have hwrite := (b.report (.writingReturn value register)).machine.writeRegister_of_bits
    register value (hvalue.trans hbits.symm)
  refine ⟨(b.setReturn (a.machine.calling caller convention) value).state, ?_⟩
  refine Outcome.eq_done_of_result _ () ?_
  unfold setReturn onMachine
  simp only [hreturn, hwrite]
  rfl

/-- An argument that was read can be returned. -/
theorem forwardArgument_eq_done (index : Nat) (value : Value) (h : a.machine.WellFormed)
    (hvalue : (a.argument (a.machine.calling caller convention) index).result = .ok value) :
    ∃ written, a.forwardArgument (a.machine.calling caller convention) index =
      .done () written := by
  have hbits := a.argument_bits caller convention index value h hvalue
  have hread := Outcome.eq_done_of_result _ value hvalue
  rcases a.setReturn_eq_done caller convention
    (a.argument (a.machine.calling caller convention) index).state value hbits with
    ⟨written, hwritten⟩
  refine ⟨written, ?_⟩
  unfold forwardArgument
  rw [hread, Outcome.andThen_done]
  exact hwritten

end Activation

-- After the write there is only the return left.
theorem Summary.result_returnArgument (setting : Setting) (a written : Activation) (index : Nat)
    (h : a.forwardArgument setting index = .done () written) :
    ((returnArgument index).program.run setting a).result =
      (written.doReturn setting).result.map fun _ => none := by
  have hforward : (Operation.forwardArgument index).perform setting a = .done () written := h
  have hreturn : Operation.doReturn.perform setting written = written.doReturn setting := rfl
  unfold returnArgument Program.doReturn Program.step Program.ask
  simp only [Program.run, hforward, Outcome.result_done, Outcome.state_done, Run.after, hreturn]
  cases (written.doReturn setting).result with
  | error fault => rfl
  | ok target => rfl

/-- Every machine that is in use is well-formed: its slots are as wide as a
    pointer, and its words fit. Hence in every call with the built-in
    conventions, arguments and return targets are as wide as a pointer, and an
    argument that was read is returned, unless there is no way back. -/
theorem representation_invariant :
    (∀ value : Value, value.Fits ↔ value.Made) ∧
      (∀ stock : Stock, stock.summary.program.MakesFitting) ∧
      (∀ machine : Machine, machine.Arises → machine.Reachable ∧ machine.WellFormed) ∧
      ∀ (a : Activation) (caller : Option Word) (convention : Option CallingConvention),
        a.machine.Arises →
        (∀ index value,
          (a.argument (a.machine.calling caller convention) index).result = .ok value →
            value.bits = a.machine.architecture.bits ∧
              ∃ written, a.forwardArgument (a.machine.calling caller convention) index =
                  .done () written ∧
                ((Summary.returnArgument index).program.run
                    (a.machine.calling caller convention) a).result =
                  (written.doReturn (a.machine.calling caller convention)).result.map
                    fun _ => none) ∧
          ∀ target, (a.doReturn (a.machine.calling caller convention)).result = .ok target →
            target.bits = a.machine.architecture.bits := by
  have hwellFormed : ∀ machine : Machine, machine.Arises →
      machine.Reachable ∧ machine.WellFormed := by
    intro machine h
    have hreachable := machine.arises_iff_reachable.mp h
    exact ⟨hreachable, machine.reachable_wellFormed hreachable⟩
  refine ⟨Value.fits_iff_made, Stock.makesFitting, hwellFormed, ?_⟩
  intro a caller convention h
  refine ⟨?_, fun target => a.doReturn_bits caller convention target (hwellFormed _ h).2⟩
  intro index value hvalue
  rcases a.forwardArgument_eq_done caller convention index value (hwellFormed _ h).2 hvalue with
    ⟨written, hwritten⟩
  exact ⟨a.argument_bits caller convention index value (hwellFormed _ h).2 hvalue, written,
    hwritten, Summary.result_returnArgument _ a written index hwritten⟩

/-- A machine with 32-bit pointers that was called with one argument. -/
def Machine.calledOnce : Machine :=
  (Block.execute .builtin [.push 5, .call 0x2000 0x1008] (.withStackPointer .x86 0x7fff0000)).state

/-- A summary that goes on in a fork, with a register that lies across the
    return register and with a slot above the arguments. -/
def Bound.splitting : Bound where
  summary :=
    { name := "Splitting"
      program :=
        .fork (.step (.writeRegister (.given ⟨"al", 8, 1⟩) (.constant 0x1ff 8)) <|
          .step (.writeStack (-8) (.symbol "second" 32)) (.finish none)) fun _ => .finish none }
  invocation := ⟨some 0x1000, .x86, some .cdecl⟩
  status := none

/-- The machine of the fork. -/
def Machine.splitOff : Machine :=
  ((calledOnce.writeRegister ⟨"al", 8, 1⟩ (.constant 0x1ff 8)).state.writeStack (-8)
    (.symbol "second" 32)).state

theorem Machine.arises_splitOff : splitOff.Arises := by
  have hcalled : calledOnce.Arises :=
    .block .builtin _ _ (.origin .x86 (.withStackPointer 0x7fff0000))
  have hfits : Bound.splitting.summary.program.MakesFitting := by
    refine ⟨?_, fun _ => by nofun⟩
    refine Program.makesFitting_ask _ _ (Value.fits_constant 0x1ff 8) fun _ _ => ?_
    exact Program.makesFitting_ask _ _ (Value.fits_symbol "second" 32) fun _ _ => by nofun
  exact .fork Bound.splitting .builtin calledOnce .zero ⟨.next, [⟨splitOff, .next⟩]⟩
    ⟨splitOff, .next⟩ hcalled hfits rfl List.mem_cons_self

/-- In the fork both arguments can be read and returned, and the call can be
    returned from. -/
theorem representation_invariant_splitOff :
    Machine.splitOff.WellFormed ∧
      (∃ written, (Activation.start .splitOff .zero).forwardArgument
          (Machine.splitOff.calling (some 0x1000) (some .cdecl)) 1 = .done () written ∧
        ((Summary.returnArgument 1).program.run
            (Machine.splitOff.calling (some 0x1000) (some .cdecl))
            (.start .splitOff .zero)).result =
          (written.doReturn (Machine.splitOff.calling (some 0x1000) (some .cdecl))).result.map
            fun _ => none) ∧
      (Value.constant 0x1008 32).bits = Machine.splitOff.architecture.bits := by
  have harises := Machine.arises_splitOff
  rcases representation_invariant.2.2.2 (.start .splitOff .zero) (some 0x1000) (some .cdecl)
    harises with ⟨hargument, htarget⟩
  refine ⟨(representation_invariant.2.2.1 _ harises).2, ?_, htarget (.constant 0x1008 32) rfl⟩
  exact (hargument 1 (.symbol "second" 32) rfl).2

end CallSummary
