import CallSummary.Call.Activation
import CallSummary.Exploration.Block
import CallSummary.Proofs.Machine.Reachable

/-!
# Runs of Blocks

What rows of instructions leave behind.

A block without a halt runs piece by piece: `execute_append` splits a run at
any point, and a run that succeeds has a machine in between. Three kinds of
piece are described here, by what the machine afterwards answers and never by
the machine itself, so descriptions of consecutive pieces can be chained.

Register writes are described by `HasWritten`. They never fail, and with
distinct offsets none of them disturbs another.

Pushes are described by `HasPushed`. The slots a row of pushes fills lie
below the stack pointer it started from, each at a known distance, and
everything at or above is kept. That last clause is what lets a row be
continued: the induction peels the first push, and its slot has to survive
the rest.

A call is described by `HasCalled`. Where the return address goes depends on
the way back, so the description is the same for both ways: the stack pointer
is down by the slots the way back takes, and taking the return target from
the machine gives the address and puts the stack pointer back.

## Main definitions

* `ReturnSequence.slots`, `ReturnSequence.links`: The stack slots and the
  registers that hold a return address.
* `Machine.HasWritten`, `Machine.HasPushed`, `Machine.HasCalled`: What the
  three kinds of piece leave.

## Theorems

* `execute_append`: A run splits where the first part does not halt.
* `execute_append_done`: A successful run has a machine in between.
* `Invariant.perform`, `Invariant.execute`: What accesses keep, instructions and
  blocks keep.
* `execute_writes`: A row of writes.
* `hasPushed_trans`: Consecutive rows of pushes are one row.
* `hasPushed_of_execute`: A row of pushes.
* `hasCalled_of_perform`: A call.
-/

namespace CallSummary

/-- How many slots of the stack hold the return address. -/
def ReturnSequence.slots : ReturnSequence → Nat
  | .popStack => 1
  | .linkRegister _ => 0

/-- The registers that hold the return address. -/
def ReturnSequence.links : ReturnSequence → List Register
  | .popStack => []
  | .linkRegister register => [register]

namespace Block

theorem execute_cons (registry : Registry) (instruction : Instruction) (rest : Block)
    (machine : Machine) (h : instruction ≠ .halt) :
    execute registry (instruction :: rest) machine =
      (instruction.perform registry machine).andThen fun _ machine =>
        execute registry rest machine := by
  cases instruction with
  | halt => exact absurd rfl h
  | write register word => rfl
  | push word => rfl
  | call target returnAddress => rfl
  | jump target => rfl

/-- A run splits where the first part does not halt. -/
theorem execute_append (registry : Registry) (first second : Block) (machine : Machine)
    (h : Instruction.halt ∉ first) :
    execute registry (first ++ second) machine =
      (execute registry first machine).andThen fun _ middle =>
        execute registry second middle := by
  induction first generalizing machine with
  | nil => rfl
  | cons instruction rest ih =>
      rw [List.mem_cons, not_or] at h
      have hne : instruction ≠ .halt := fun hc => h.1 hc.symm
      rw [List.cons_append, execute_cons registry instruction (rest ++ second) machine hne,
        execute_cons registry instruction rest machine hne, Outcome.andThen_assoc]
      congr 1
      funext _ middle
      exact ih middle h.2

/-- A successful run of two parts has a machine in between. -/
theorem execute_append_done (registry : Registry) (first second : Block)
    (machine after : Machine) (flow : Flow) (h : Instruction.halt ∉ first)
    (hrun : execute registry (first ++ second) machine = .done flow after) :
    ∃ passed middle, execute registry first machine = .done passed middle ∧
      execute registry second middle = .done flow after := by
  rw [execute_append registry first second machine h] at hrun
  exact (Outcome.andThen_eq_done_iff _ _ flow after).mp hrun

/-- What every instruction keeps, a block keeps, however it ends. -/
theorem state_execute (registry : Registry) (P : Machine → Prop)
    (hperform : ∀ (instruction : Instruction) (machine : Machine), P machine →
      P (instruction.perform registry machine).state) (block : Block) :
    ∀ machine : Machine, P machine → P (block.execute registry machine).state := by
  induction block with
  | nil => exact fun _ h => h
  | cons instruction rest ih =>
      intro machine h
      by_cases hhalt : instruction = .halt
      · subst hhalt
        exact h
      · rw [execute_cons registry instruction rest machine hhalt]
        exact Outcome.state_andThen _ _ P (hperform instruction machine h) fun _ => ih

end Block

namespace Machine

@[simp] theorem architecture_jump (machine : Machine) (target : Word) :
    (machine.jump target).state.architecture = machine.architecture :=
  architecture_writeRegister machine _ _

@[simp] theorem architecture_leaveReturn (machine : Machine) (sequence : Option ReturnSequence)
    (address : Word) :
    (machine.leaveReturn sequence address).state.architecture = machine.architecture := by
  unfold leaveReturn
  split
  next => exact architecture_writeRegister machine _ _
  next => exact architecture_push machine _

end Machine

@[simp] theorem Instruction.architecture_perform (registry : Registry) (machine : Machine)
    (instruction : Instruction) :
    (instruction.perform registry machine).state.architecture = machine.architecture := by
  cases instruction with
  | write register word => exact Machine.architecture_writeRegister machine _ _
  | push word => exact Machine.architecture_push machine _
  | call target returnAddress =>
      refine Outcome.state_andThen _ _
        (fun after : Machine => after.architecture = machine.architecture) ?_ ?_
      · exact Machine.architecture_leaveReturn machine _ _
      · intro _ middle hmiddle
        exact (Machine.architecture_jump middle target).trans hmiddle
  | jump target => exact Machine.architecture_jump machine target
  | halt => rfl

theorem Block.architecture_execute (registry : Registry) (block : Block) (machine : Machine) :
    (block.execute registry machine).state.architecture = machine.architecture := by
  refine state_execute registry (fun after => after.architecture = machine.architecture) ?_
    block machine rfl
  intro instruction middle hmiddle
  exact (instruction.architecture_perform registry middle).trans hmiddle

namespace Machine.Invariant

variable {P : Machine → Prop}

-- The words of a block are cut to the width they are written at, so all that
-- it writes fits.
theorem perform (h : Invariant P) (registry : Registry) (instruction : Instruction)
    (machine : Machine) (hmachine : P machine) :
    P (instruction.perform registry machine).state := by
  have hjump : ∀ (middle : Machine) (target : Word), P middle → P (middle.jump target).state :=
    fun middle target hmiddle =>
      h.writeRegister middle _ _ hmiddle (Value.fits_constant target _)
  cases instruction with
  | write register word =>
      exact h.writeRegister machine register _ hmachine (Value.fits_constant word _)
  | push word => exact h.push machine _ hmachine (Value.fits_constant word _)
  | call target returnAddress =>
      refine Outcome.state_andThen _ _ P ?_ fun _ middle => hjump middle target
      unfold Machine.leaveReturn
      split
      next =>
        exact h.writeRegister machine _ _ hmachine (Value.fits_constant returnAddress _)
      next => exact h.push machine _ hmachine (Value.fits_constant returnAddress _)
  | jump target => exact hjump machine target hmachine
  | halt => exact hmachine

/-- What accesses keep, blocks keep, however they end. -/
theorem execute (h : Invariant P) (registry : Registry) (block : Block) (machine : Machine)
    (hmachine : P machine) : P (block.execute registry machine).state :=
  Block.state_execute registry P (h.perform registry) block machine hmachine

end Machine.Invariant

theorem Block.wellFormed_execute (registry : Registry) (block : Block) (machine : Machine)
    (h : machine.WellFormed) : (block.execute registry machine).state.WellFormed :=
  ((Machine.invariant_wellFormed machine.architecture).execute registry block machine
    ⟨h, rfl⟩).1

/-- A block goes on behind itself or halts. It never returns. -/
theorem Block.flow_execute (registry : Registry) (block : Block) :
    ∀ (machine : Machine) (flow : Flow), (block.execute registry machine).result = .ok flow →
      flow = .next ∨ flow = .halt := by
  induction block with
  | nil => exact fun machine flow h => .inl (Except.ok.inj h).symm
  | cons instruction rest ih =>
      intro machine flow h
      by_cases hhalt : instruction = .halt
      · subst hhalt
        exact .inr (Except.ok.inj h).symm
      · rw [execute_cons registry instruction rest machine hhalt] at h
        rcases (Outcome.andThen_eq_done_iff _ _ flow _).mp (Outcome.eq_done_of_result _ flow h) with
          ⟨_, middle, _, hrest⟩
        exact ih middle flow (by rw [hrest]; rfl)

namespace Machine

/-- The stack pointer is a question about one register. -/
theorem readStackPointer_congr (before after : Machine)
    (harch : after.architecture = before.architecture)
    (hread : after.readRegister before.architecture.stackPointer =
      before.readRegister before.architecture.stackPointer) :
    after.readStackPointer = before.readStackPointer := by
  unfold readStackPointer
  rw [harch, hread]

/-- Each register of the row holds its word, and nothing else has changed. -/
structure HasWritten (before after : Machine) (entries : List (Register × Word)) : Prop where
  architecture : after.architecture = before.architecture
  stack : after.stack = before.stack
  written : ∀ entry ∈ entries,
    after.readRegister entry.1 = .ok (.constant entry.2 entry.1.bits)
  kept : ∀ register : Register, register.offset ∉ entries.map (·.1.offset) →
    after.readRegister register = before.readRegister register

/-- A row of writes to registers at distinct offsets succeeds, and each
    write outlasts the ones after it. -/
theorem execute_writes (registry : Registry) (entries : List (Register × Word))
    (hdistinct : (entries.map (·.1.offset)).Nodup) :
    ∀ machine : Machine, ∃ after,
      Block.execute registry (entries.map fun entry => .write entry.1 entry.2) machine =
        .done .next after ∧ machine.HasWritten after entries := by
  induction entries with
  | nil =>
      intro machine
      refine ⟨machine, rfl, rfl, rfl, ?_, fun _ _ => rfl⟩
      intro entry hentry
      exact absurd hentry List.not_mem_nil
  | cons entry rest ih =>
      intro machine
      rw [List.map_cons, List.nodup_cons] at hdistinct
      let middle := machine.assign entry.1.offset (.constant entry.2 entry.1.bits)
      have hwrite : (Instruction.write entry.1 entry.2).perform registry machine =
          .done () middle :=
        writeRegister_of_bits machine entry.1 _ (Value.bits_constant _ _)
      rcases ih hdistinct.2 middle with ⟨after, hrun, hwritten⟩
      refine ⟨after, ?_, hwritten.architecture, hwritten.stack, ?_, ?_⟩
      · rw [List.map_cons, Block.execute_cons _ _ _ _ (by simp only [ne_eq, reduceCtorEq,
          not_false_eq_true]), hwrite]
        exact hrun
      · intro other hother
        rcases List.mem_cons.mp hother with rfl | hrest
        · -- No later write of the row is at this offset.
          rw [hwritten.kept other.1 hdistinct.1]
          exact readRegister_assign_same machine other.1 _ (Value.bits_constant _ _)
        · exact hwritten.written other hrest
      · intro register hregister
        rw [List.map_cons, List.mem_cons, not_or] at hregister
        rw [hwritten.kept register hregister.2]
        exact readRegister_assign_other machine _ register _ fun hc => hregister.1 hc.symm

/-- The words lie below the address `sp`, the first one slot down and the
    last where the stack pointer now is, and nothing else has changed. -/
structure HasPushed (before after : Machine) (sp : Word) (words : List Word) : Prop where
  architecture : after.architecture = before.architecture
  stackPointer : ∃ lower, after.readStackPointer = .ok lower ∧
    lower.toNat + before.architecture.pointerSize * words.length = sp.toNat
  kept : ∀ register : Register,
    register.offset ≠ before.architecture.stackPointer.offset →
    after.readRegister register = before.readRegister register
  slots : ∀ (i : Nat) (h : i < words.length) (address : Word),
    address.toNat + before.architecture.pointerSize * (i + 1) = sp.toNat →
    after.stack[address]? = some (.constant words[i] before.architecture.bits)
  above : ∀ address : Word, sp.toNat ≤ address.toNat →
    after.stack[address]? = before.stack[address]?

theorem hasPushed_nil (machine : Machine) (sp : Word)
    (hsp : machine.readStackPointer = .ok sp) : machine.HasPushed machine sp [] where
  architecture := rfl
  stackPointer := ⟨sp, hsp, by rw [List.length_nil, Nat.mul_zero, Nat.add_zero]⟩
  kept _ _ := rfl
  slots i h _ _ := absurd h (by simp only [List.length_nil, Nat.not_lt_zero, not_false_eq_true])
  above _ _ := rfl

/-- A single push. The stack pointer has to be one that its register holds,
    or the new one might be cut. -/
theorem hasPushed_single (machine after : Machine) (sp word : Word)
    (hsp : machine.readStackPointer = .ok sp)
    (hlt : sp.toNat < 2 ^ machine.architecture.bits)
    (hpush : machine.push (.constant word machine.architecture.bits) = .done () after) :
    machine.HasPushed after sp [word] := by
  rcases push_exact machine after _ sp hsp hlt hpush with ⟨lower, hroom, rfl, hlower⟩
  have hpos := machine.architecture.pointerSize_pos
  refine ⟨rfl, ⟨lower, hlower, ?_⟩, ?_, ?_, ?_⟩
  · rw [List.length_singleton, Nat.mul_one]
    exact hroom
  · intro register hregister
    exact readRegister_assign_other _ _ register _ fun hc => hregister hc.symm
  · intro i hi address haddress
    rw [List.length_singleton] at hi
    have hzero : i = 0 := by omega
    subst hzero
    have hsame : lower = address := by
      rw [← UInt64.toNat_inj]
      omega
    rw [stack_setStackPointer, getElem?_stack_store, if_pos hsame, List.getElem_cons_zero]
  · intro address haddress
    rw [stack_setStackPointer, getElem?_stack_store, if_neg]
    intro hsame
    rw [← hsame] at haddress
    omega

/-- Consecutive rows of pushes are one row. The slots of the first row are at
    or above where the second starts, so the second keeps them. -/
theorem hasPushed_trans (before middle after : Machine) (sp lower : Word)
    (first second : List Word) (hfirst : before.HasPushed middle sp first)
    (hlower : middle.readStackPointer = .ok lower)
    (hsecond : middle.HasPushed after lower second) :
    before.HasPushed after sp (first ++ second) := by
  rcases hfirst.stackPointer with ⟨other, hother, hdown⟩
  rw [hlower, Except.ok.injEq] at hother
  subst hother
  have harch := hfirst.architecture
  refine ⟨hsecond.architecture.trans harch, ?_, ?_, ?_, ?_⟩
  · rcases hsecond.stackPointer with ⟨bottom, hbottom, hfurther⟩
    rw [harch] at hfurther
    refine ⟨bottom, hbottom, ?_⟩
    rw [List.length_append, Nat.mul_add]
    omega
  · intro register hregister
    rw [hsecond.kept register (by rw [harch]; exact hregister)]
    exact hfirst.kept register hregister
  · intro i hi address haddress
    by_cases hlt : i < first.length
    · have hmul : before.architecture.pointerSize * (i + 1) ≤
          before.architecture.pointerSize * first.length :=
        Nat.mul_le_mul_left _ (by omega)
      rw [hsecond.above address (by omega), List.getElem_append_left hlt]
      exact hfirst.slots i hlt address haddress
    · rw [List.length_append] at hi
      have hmul : before.architecture.pointerSize * (i + 1) =
          before.architecture.pointerSize * first.length +
            before.architecture.pointerSize * (i - first.length + 1) := by
        rw [← Nat.mul_add]
        congr 1
        omega
      rw [List.getElem_append_right (by omega)]
      have hslot := hsecond.slots (i - first.length) (by omega) address
        (by rw [harch]; omega)
      rw [harch] at hslot
      exact hslot
  · intro address haddress
    rw [hsecond.above address (by omega)]
    exact hfirst.above address haddress

/-- A successful row of pushes, by induction on the row. The stack pointer
    only goes down, so it stays one that its register holds. -/
theorem hasPushed_of_execute (registry : Registry) (words : List Word) :
    ∀ (machine after : Machine) (sp : Word) (flow : Flow),
      machine.readStackPointer = .ok sp → sp.toNat < 2 ^ machine.architecture.bits →
      Block.execute registry (words.map .push) machine = .done flow after →
      machine.HasPushed after sp words := by
  induction words with
  | nil =>
      intro machine after sp flow hsp _ hrun
      have hsame : machine = after :=
        ((Outcome.done_eq_done_iff Flow.next flow machine after).mp hrun).2
      rw [← hsame]
      exact hasPushed_nil machine sp hsp
  | cons word rest ih =>
      intro machine after sp flow hsp hlt hrun
      rw [List.map_cons, Block.execute_cons _ _ _ _ (by simp only [ne_eq, reduceCtorEq,
        not_false_eq_true])] at hrun
      rcases (Outcome.andThen_eq_done_iff _ _ flow after).mp hrun with
        ⟨_, middle, hpush, hrest⟩
      have hone := hasPushed_single machine middle sp word hsp hlt hpush
      rcases hone.stackPointer with ⟨lower, hlower, hdown⟩
      have hlowerlt : lower.toNat < 2 ^ middle.architecture.bits := by
        rw [hone.architecture]
        omega
      have hmany := ih middle after lower flow hlower hlowerlt hrest
      exact hasPushed_trans machine middle after sp lower [word] rest hone hlower hmany

/-- A jump always succeeds: the address is cut to the width it is written
    at. -/
theorem jump_eq_done (machine : Machine) (target : Word) :
    machine.jump target = .done ()
      (machine.assign machine.architecture.instructionPointer.offset
        (.constant target machine.architecture.instructionPointer.bits)) :=
  writeRegister_of_bits machine _ _ (Value.bits_constant _ _)

/-- The return address is where the way back takes it from. Taking it puts
    the stack pointer at `sp` again. Nothing above `sp` has changed, and no
    register but those a call is about. -/
structure HasCalled (before after : Machine) (sp : Word) (sequence : ReturnSequence)
    (returnAddress : Word) : Prop where
  architecture : after.architecture = before.architecture
  stackPointer : ∃ lower, after.readStackPointer = .ok lower ∧
    lower.toNat + before.architecture.pointerSize * sequence.slots = sp.toNat
  kept : ∀ register : Register,
    register.offset ∉ (sequence.links ++ [before.architecture.stackPointer,
      before.architecture.instructionPointer]).map Register.offset →
    after.readRegister register = before.readRegister register
  above : ∀ address : Word, sp.toNat ≤ address.toNat →
    after.stack[address]? = before.stack[address]?
  returns : ∃ final,
    after.takeReturn sequence =
      .done (.constant returnAddress before.architecture.bits) final ∧
    final.readStackPointer = .ok sp

/-- A call through the stack pushes the return address and then jumps. -/
theorem hasCalled_popStack (machine middle : Machine) (sp returnAddress target : Word)
    (hsp : machine.readStackPointer = .ok sp)
    (hlt : sp.toNat < 2 ^ machine.architecture.bits)
    (hpush : machine.push (.constant returnAddress machine.architecture.bits) =
      .done () middle) :
    machine.HasCalled (middle.assign middle.architecture.instructionPointer.offset
      (.constant target middle.architecture.instructionPointer.bits))
      sp .popStack returnAddress := by
  have hpushed := hasPushed_single machine middle sp returnAddress hsp hlt hpush
  have harch := hpushed.architecture
  have hne := middle.architecture.offset_instructionPointer_ne
  rcases hpushed.stackPointer with ⟨lower, hlower, hdown⟩
  rw [List.length_singleton] at hdown
  -- The jump is to the side of the stack pointer, and the stack it does not know.
  generalize Value.constant target middle.architecture.instructionPointer.bits = value
  have hlowerAfter : (middle.assign middle.architecture.instructionPointer.offset
      value).readStackPointer = .ok lower := by
    rw [readStackPointer_assign_other middle _ value hne]
    exact hlower
  refine ⟨harch, ⟨lower, hlowerAfter, hdown⟩, ?_, hpushed.above, ?_⟩
  · intro register hregister
    simp only [ReturnSequence.links, List.nil_append, List.map_cons, List.map_nil,
      List.mem_cons, List.not_mem_nil, or_false, not_or] at hregister
    rw [readRegister_assign_other middle _ register value]
    · exact hpushed.kept register hregister.1
    · rw [harch]
      exact fun hc => hregister.2 hc.symm
  · have hslot := hpushed.slots 0 Nat.zero_lt_one lower hdown
    refine ⟨_, (pop_eq_done_iff _ _ _).mpr ⟨lower, sp, hlowerAfter, hslot, ?_, rfl⟩, ?_⟩
    · rw [architecture_assign, harch]
      omega
    · rw [readStackPointer_setStackPointer, architecture_assign, harch,
        Value.lowBits_of_lt _ sp hlt]

/-- A call through a link register writes the return address and then
    jumps. -/
theorem hasCalled_linkRegister (machine : Machine) (sp returnAddress target : Word)
    (link : Register) (hsp : machine.readStackPointer = .ok sp)
    (hbits : link.bits = machine.architecture.bits)
    (hlinksp : link.offset ≠ machine.architecture.stackPointer.offset)
    (hlinkip : link.offset ≠ machine.architecture.instructionPointer.offset) :
    machine.HasCalled
      ((machine.assign link.offset (.constant returnAddress machine.architecture.bits)).assign
        machine.architecture.instructionPointer.offset
        (.constant target machine.architecture.instructionPointer.bits))
      sp (.linkRegister link) returnAddress := by
  have hne := machine.architecture.offset_instructionPointer_ne
  generalize hmiddle : machine.assign link.offset
    (.constant returnAddress machine.architecture.bits) = middle
  have harch : middle.architecture = machine.architecture := by
    rw [← hmiddle, architecture_assign]
  have hspMiddle : middle.readStackPointer = .ok sp := by
    rw [← hmiddle, readStackPointer_assign_other machine _ _ hlinksp]
    exact hsp
  have hlinkMiddle : middle.readRegister link =
      .ok (.constant returnAddress machine.architecture.bits) := by
    rw [← hmiddle]
    exact readRegister_assign_same machine link _ hbits.symm
  generalize Value.constant target machine.architecture.instructionPointer.bits = value
  have hspAfter : (middle.assign machine.architecture.instructionPointer.offset
      value).readStackPointer = .ok sp := by
    rw [readStackPointer_assign_other middle _ value (by rw [harch]; exact hne)]
    exact hspMiddle
  refine ⟨harch, ⟨sp, hspAfter, rfl⟩, ?_, ?_, ?_⟩
  · intro register hregister
    simp only [ReturnSequence.links, List.cons_append, List.nil_append, List.map_cons,
      List.map_nil, List.mem_cons, List.not_mem_nil, or_false, not_or] at hregister
    rw [readRegister_assign_other middle _ register value fun hc => hregister.2.2 hc.symm,
      ← hmiddle, readRegister_assign_other machine _ register _ fun hc => hregister.1 hc.symm]
  · intro address _
    rw [stack_assign, ← hmiddle, stack_assign]
  · -- Reading the link register moves nothing, so the stack pointer is already there.
    refine ⟨_, ?_, hspAfter⟩
    have hlinkAfter : (middle.assign machine.architecture.instructionPointer.offset
        value).readRegister link = .ok (.constant returnAddress machine.architecture.bits) := by
      rw [readRegister_assign_other middle _ link value fun hc => hlinkip hc.symm]
      exact hlinkMiddle
    simp only [takeReturn, hlinkAfter]
    rfl

/-- A successful call, whichever way the return address is left. -/
theorem hasCalled_of_perform (registry : Registry) (machine after : Machine)
    (sequence : ReturnSequence) (sp returnAddress target : Word)
    (hsequence : registry.returnSequence? machine.architecture = some sequence)
    (hsp : machine.readStackPointer = .ok sp)
    (hlt : sp.toNat < 2 ^ machine.architecture.bits)
    (hbits : ∀ link ∈ sequence.links, link.bits = machine.architecture.bits)
    (hlinksp : ∀ link ∈ sequence.links,
      link.offset ≠ machine.architecture.stackPointer.offset)
    (hlinkip : ∀ link ∈ sequence.links,
      link.offset ≠ machine.architecture.instructionPointer.offset)
    (hcall : (Instruction.call target returnAddress).perform registry machine =
      .done () after) :
    machine.HasCalled after sp sequence returnAddress := by
  have hsplit : (machine.leaveReturn (some sequence) returnAddress).andThen
      (fun _ middle => middle.jump target) = .done () after := by
    rw [← hsequence]
    exact hcall
  rcases (Outcome.andThen_eq_done_iff _ _ () after).mp hsplit with ⟨_, middle, hleave, hjump⟩
  rw [jump_eq_done, Outcome.done_eq_done_iff] at hjump
  rw [← hjump.2]
  cases sequence with
  | popStack => exact hasCalled_popStack machine middle sp returnAddress target hsp hlt hleave
  | linkRegister link =>
      have hlink : link ∈ (ReturnSequence.linkRegister link).links := List.mem_singleton_self link
      have hwrite := writeRegister_of_bits machine link
        (.constant returnAddress machine.architecture.bits) (hbits link hlink).symm
      have hmiddle : machine.assign link.offset
          (.constant returnAddress machine.architecture.bits) = middle :=
        ((Outcome.done_eq_done_iff () () _ middle).mp (hwrite.symm.trans hleave)).2
      rw [← hmiddle]
      exact hasCalled_linkRegister machine sp returnAddress target link hsp (hbits link hlink)
        (hlinksp link hlink) (hlinkip link hlink)

end Machine

end CallSummary
