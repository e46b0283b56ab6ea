import CallSummary.Proofs.Call.ArgumentRow
import CallSummary.Proofs.Exploration.BlockRuns

/-!
# The Round Trip of a Call

A caller that follows a convention is understood by the callee.

The caller is a block. It writes the first arguments to the registers of the
placement, pushes the others from the last to the first, pushes padding, and
calls. On the other side a summary bound with the same convention asks for
its arguments and returns. What ties the two is the layout of the stack. The
caller counts slots down from where it started, the callee counts offsets up
from where it is entered, and the two agree because the slots the callee
skips are the padding and what the way back takes.

`Placement.Agrees` is what the tables have to satisfy for this, and the
built-in tables are checked against it row by row. Everything else holds of
any placement that agrees. `Machine.Delivered` is the state in between: it
says where everything is after the block has run, counted from the stack
pointer before it. It is put together from the descriptions of the three
parts of the block, and the callee's side only reads it.

## Main definitions

* `Placement.callerBlock`: The block of a caller.
* `Placement.Agrees`: What makes a placement fit an architecture and a way
  back.
* `Machine.Delivered`: Arguments and return address, after a caller has run.

## Theorems

* `agrees_builtin`: Every built-in placement agrees.
* `countP_callerBlock`: How often a caller pushes.
* `delivered_of_execute`: What the block of a caller leaves.
* `argument_of_delivered`: Every argument is at its location.
* `roundTrip_of_agrees`: The round trip, for any placement that agrees.
* `roundTrip_builtin`: The round trip of every built-in convention.
-/

namespace CallSummary

/-- Whether the instruction pushes a constant. -/
def Instruction.isPush : Instruction → Bool
  | .push _ => true
  | _ => false

namespace Placement

/-- The registers of the first arguments, each with its word. -/
def inRegisters (placement : Placement) (values : List Word) : List (Register × Word) :=
  placement.registers.zip values

/-- What is pushed before a call: the arguments that no register is left for,
    the last one first, and then the padding. -/
def onStack (placement : Placement) (values padding : List Word) : List Word :=
  (values.drop placement.registers.length).reverse ++ padding

/-- The block of a caller that passes the values and then calls. -/
def callerBlock (placement : Placement) (values padding : List Word)
    (target returnAddress : Word) : Block :=
  ((placement.inRegisters values).map fun entry => .write entry.1 entry.2) ++
    ((placement.onStack values padding).map .push ++ [.call target returnAddress])

/-- The placement fits the architecture and the way back: stack arguments are
    a pointer apart, registers are as wide as a pointer, and no two registers
    that a call is about share a place. -/
structure Agrees (placement : Placement) (arch : Architecture) (sequence : ReturnSequence) :
    Prop where
  stride : placement.stride.toInt = -arch.pointerSize
  bits : ∀ register ∈ placement.registers ++ sequence.links, register.bits = arch.bits
  distinct : ((placement.registers ++ (sequence.links ++
    [arch.stackPointer, arch.instructionPointer])).map Register.offset).Nodup

instance (placement : Placement) (arch : Architecture) (sequence : ReturnSequence) :
    Decidable (placement.Agrees arch sequence) :=
  decidable_of_iff
    (placement.stride.toInt = -arch.pointerSize ∧
      (∀ register ∈ placement.registers ++ sequence.links, register.bits = arch.bits) ∧
      ((placement.registers ++ (sequence.links ++
        [arch.stackPointer, arch.instructionPointer])).map Register.offset).Nodup)
    ⟨fun h => ⟨h.1, h.2.1, h.2.2⟩, fun h => ⟨h.stride, h.bits, h.distinct⟩⟩

-- One row of the tables for each pair, most of them without a placement.
theorem agrees_builtin (arch : Architecture) (convention : CallingConvention)
    (placement : Placement) (sequence : ReturnSequence)
    (hplacement : Registry.builtin.placement? arch convention = some placement)
    (hsequence : Registry.builtin.returnSequence? arch = some sequence) :
    placement.Agrees arch sequence := by
  have hrow := Registry.of_rows_builtin
    (fun arch placement => ∀ sequence ∈ Registry.builtin.returnSequence? arch,
      placement.Agrees arch sequence) (by decide) hplacement
  exact hrow sequence hsequence

namespace Agrees

variable {placement : Placement} {arch : Architecture} {sequence : ReturnSequence}

theorem registers_nodup (h : placement.Agrees arch sequence) :
    (placement.registers.map Register.offset).Nodup := by
  have hdistinct := h.distinct
  rw [List.map_append, List.nodup_append] at hdistinct
  exact hdistinct.1

-- An argument register survives what comes after the writes.
theorem offset_not_mem (h : placement.Agrees arch sequence) (register : Register)
    (hregister : register ∈ placement.registers) :
    register.offset ∉ (sequence.links ++
      [arch.stackPointer, arch.instructionPointer]).map Register.offset := by
  have hdistinct := h.distinct
  rw [List.map_append, List.nodup_append] at hdistinct
  intro hmem
  exact hdistinct.2.2 _ (List.mem_map_of_mem hregister) _ hmem rfl

theorem stackPointer_not_mem (h : placement.Agrees arch sequence) :
    arch.stackPointer.offset ∉ placement.registers.map Register.offset := by
  intro hmem
  rcases List.mem_map.mp hmem with ⟨register, hregister, hoffset⟩
  refine h.offset_not_mem register hregister ?_
  rw [hoffset]
  exact List.mem_map_of_mem (List.mem_append_right _ List.mem_cons_self)

theorem link_ne (h : placement.Agrees arch sequence) (link : Register)
    (hlink : link ∈ sequence.links) :
    link.offset ≠ arch.stackPointer.offset ∧ link.offset ≠ arch.instructionPointer.offset := by
  have hdistinct := h.distinct
  rw [List.map_append, List.nodup_append] at hdistinct
  have hrest := hdistinct.2.1
  rw [List.map_append, List.nodup_append] at hrest
  have hapart := hrest.2.2 link.offset (List.mem_map_of_mem hlink)
  exact ⟨hapart _ (List.mem_map_of_mem List.mem_cons_self),
    hapart _ (List.mem_map_of_mem (List.mem_cons_of_mem _ List.mem_cons_self))⟩

end Agrees

theorem inRegisters_nodup (placement : Placement) (values : List Word)
    (h : (placement.registers.map Register.offset).Nodup) :
    ((placement.inRegisters values).map (·.1.offset)).Nodup := by
  have hoffsets : (placement.inRegisters values).map (·.1.offset) =
      ((placement.inRegisters values).map Prod.fst).map Register.offset := by
    rw [List.map_map]
    rfl
  rw [hoffsets]
  refine List.Sublist.nodup (List.Sublist.map Register.offset ?_) h
  -- The row ends with the shorter list, so it names a part of the registers only.
  have hlength : (placement.registers.take
      (min placement.registers.length values.length)).length ≤
      (values.take (min placement.registers.length values.length)).length := by
    rw [List.length_take, List.length_take]
    omega
  rw [inRegisters, List.zip_eq_zip_take_min, List.map_fst_zip hlength]
  exact List.take_sublist _ _

theorem mem_inRegisters (placement : Placement) (values : List Word) (i : Nat)
    (hregister : i < placement.registers.length) (hvalue : i < values.length) :
    (placement.registers[i], values[i]) ∈ placement.inRegisters values := by
  have hlength : i < (placement.inRegisters values).length := by
    rw [inRegisters, List.length_zip]
    omega
  have hget : (placement.inRegisters values)[i] = (placement.registers[i], values[i]) :=
    List.getElem_zip
  rw [← hget]
  exact List.getElem_mem hlength

theorem length_onStack (placement : Placement) (values padding : List Word) :
    (placement.onStack values padding).length =
      values.length - placement.registers.length + padding.length := by
  rw [onStack, List.length_append, List.length_reverse, List.length_drop]

-- The last argument is pushed first, so the row is counted from the end of
-- the list.
theorem getElem_onStack (placement : Placement) (values padding : List Word) (i : Nat)
    (hregister : placement.registers.length ≤ i) (hvalue : i < values.length)
    (hindex : values.length - 1 - i < (placement.onStack values padding).length) :
    (placement.onStack values padding)[values.length - 1 - i] = values[i] := by
  have hdrop : (values.drop placement.registers.length).length =
      values.length - placement.registers.length := List.length_drop
  simp only [onStack]
  rw [List.getElem_append_left (by rw [List.length_reverse]; omega), List.getElem_reverse,
    List.getElem_drop]
  congr 1
  omega

theorem countP_callerBlock (placement : Placement) (values padding : List Word)
    (target returnAddress : Word) :
    (placement.callerBlock values padding target returnAddress).countP Instruction.isPush =
      (placement.onStack values padding).length := by
  have hwrites : ((placement.inRegisters values).map
      fun entry => Instruction.write entry.1 entry.2).countP Instruction.isPush = 0 := by
    rw [List.countP_map]
    exact List.countP_eq_zero.mpr fun entry _ => Bool.false_ne_true
  have hpushes : ((placement.onStack values padding).map Instruction.push).countP
      Instruction.isPush = (placement.onStack values padding).length := by
    rw [List.countP_map]
    exact List.countP_eq_length.mpr fun word _ => rfl
  rw [callerBlock, List.countP_append, List.countP_append, hwrites, hpushes, Nat.zero_add]
  rfl

end Placement

namespace Machine

/-- The machine on which a callee is entered, after a caller that started with
    the stack pointer at `sp`. -/
structure Delivered (after : Machine) (sp : Word) (placement : Placement)
    (sequence : ReturnSequence) (values padding : List Word) (returnAddress : Word) : Prop where
  inRegister : ∀ (i : Nat) (hregister : i < placement.registers.length)
    (hvalue : i < values.length), after.readRegister placement.registers[i] =
      .ok (.constant values[i] after.architecture.bits)
  onStack : ∀ (i : Nat) (_ : placement.registers.length ≤ i) (hvalue : i < values.length)
    (address : Word),
    address.toNat + after.architecture.pointerSize * (values.length - i) = sp.toNat →
    after.stack[address]? = some (.constant values[i] after.architecture.bits)
  stackPointer : ∃ entry, after.readStackPointer = .ok entry ∧
    entry.toNat + after.architecture.pointerSize *
      ((placement.onStack values padding).length + sequence.slots) = sp.toNat
  returns : ∃ final lower, after.takeReturn sequence =
      .done (.constant returnAddress after.architecture.bits) final ∧
    final.readStackPointer = .ok lower ∧
    lower.toNat + after.architecture.pointerSize * (placement.onStack values padding).length =
      sp.toNat

/-- What the three parts of a caller's block leave, put together. -/
theorem delivered_of_parts (machine written pushed after : Machine) (sp lower : Word)
    (placement : Placement) (sequence : ReturnSequence) (values padding : List Word)
    (returnAddress : Word) (hagrees : placement.Agrees machine.architecture sequence)
    (hwritten : machine.HasWritten written (placement.inRegisters values))
    (hpushed : written.HasPushed pushed sp (placement.onStack values padding))
    (hlower : pushed.readStackPointer = .ok lower)
    (hcalled : pushed.HasCalled after lower sequence returnAddress) :
    after.Delivered sp placement sequence values padding returnAddress := by
  have harchPushed : pushed.architecture = machine.architecture :=
    hpushed.architecture.trans hwritten.architecture
  have harch : after.architecture = machine.architecture :=
    hcalled.architecture.trans harchPushed
  have hdown : lower.toNat + machine.architecture.pointerSize *
      (placement.onStack values padding).length = sp.toNat := by
    rcases hpushed.stackPointer with ⟨other, hother, hdown⟩
    rw [hlower, Except.ok.injEq] at hother
    rw [hother, ← hwritten.architecture]
    exact hdown
  refine ⟨?_, ?_, ?_, ?_⟩
  · intro i hregister hvalue
    have hmem : placement.registers[i] ∈ placement.registers := List.getElem_mem hregister
    have hapart := hagrees.offset_not_mem _ hmem
    have hsp : placement.registers[i].offset ≠ machine.architecture.stackPointer.offset :=
      fun hc => hagrees.stackPointer_not_mem (hc ▸ List.mem_map_of_mem hmem)
    rw [hcalled.kept _ (by rw [harchPushed]; exact hapart),
      hpushed.kept _ (by rw [hwritten.architecture]; exact hsp),
      hwritten.written _ (placement.mem_inRegisters values i hregister hvalue), harch,
      hagrees.bits _ (List.mem_append_left _ hmem)]
  · intro i hregister hvalue address haddress
    rw [harch] at haddress
    have hlength := placement.length_onStack values padding
    have hindex : values.length - 1 - i < (placement.onStack values padding).length := by omega
    -- The slot was filled by the row of pushes, so it is not below where the row ended.
    have hmul : machine.architecture.pointerSize * (values.length - i) ≤
        machine.architecture.pointerSize * (placement.onStack values padding).length :=
      Nat.mul_le_mul_left _ (by omega)
    rw [hcalled.above address (by omega)]
    have hslot := hpushed.slots (values.length - 1 - i) hindex address (by
      rw [hwritten.architecture, show values.length - 1 - i + 1 = values.length - i by omega]
      exact haddress)
    rw [hslot, placement.getElem_onStack values padding i hregister hvalue hindex, harch,
      hwritten.architecture]
  · rcases hcalled.stackPointer with ⟨entry, hentry, hfurther⟩
    refine ⟨entry, hentry, ?_⟩
    rw [harchPushed] at hfurther
    rw [harch, Nat.mul_add]
    omega
  · rcases hcalled.returns with ⟨final, htake, hfinal⟩
    rw [harchPushed, ← harch] at htake
    exact ⟨final, lower, htake, hfinal, by rw [harch]; exact hdown⟩

/-- A caller's block that runs to its end delivers. -/
theorem delivered_of_execute (registry : Registry) (machine after : Machine) (sp : Word)
    (flow : Flow) (placement : Placement) (sequence : ReturnSequence)
    (values padding : List Word) (target returnAddress : Word)
    (hagrees : placement.Agrees machine.architecture sequence)
    (hsequence : registry.returnSequence? machine.architecture = some sequence)
    (hsp : machine.readStackPointer = .ok sp)
    (hlt : sp.toNat < 2 ^ machine.architecture.bits)
    (hrun : (placement.callerBlock values padding target returnAddress).execute registry
      machine = .done flow after) :
    after.Delivered sp placement sequence values padding returnAddress := by
  have hnowrites : Instruction.halt ∉ (placement.inRegisters values).map
      fun entry => Instruction.write entry.1 entry.2 := by
    simp only [List.mem_map, reduceCtorEq, and_false, exists_false, not_false_eq_true]
  have hnopushes : Instruction.halt ∉
      (placement.onStack values padding).map Instruction.push := by
    simp only [List.mem_map, reduceCtorEq, and_false, exists_false, not_false_eq_true]
  rcases Block.execute_append_done registry _ _ machine after flow hnowrites hrun with
    ⟨_, written, hwrites, hrest⟩
  rcases Block.execute_append_done registry _ _ written after flow hnopushes hrest with
    ⟨passed, pushed, hpushes, hcall⟩
  -- The writes cannot fail, so what they leave is what `execute_writes` says.
  rcases execute_writes registry (placement.inRegisters values)
    (placement.inRegisters_nodup values hagrees.registers_nodup) machine with
    ⟨other, hother, hwritten⟩
  rw [hwrites, Outcome.done_eq_done_iff] at hother
  rw [← hother.2] at hwritten
  have hspWritten : written.readStackPointer = .ok sp := by
    rw [readStackPointer_congr machine written hwritten.architecture]
    · exact hsp
    · refine hwritten.kept _ fun hmem => hagrees.stackPointer_not_mem ?_
      rcases List.mem_map.mp hmem with ⟨entry, hentry, hoffset⟩
      rw [← hoffset]
      exact List.mem_map_of_mem (List.of_mem_zip hentry).1
  have hpushed := hasPushed_of_execute registry (placement.onStack values padding) written
    pushed sp passed hspWritten (by rw [hwritten.architecture]; exact hlt) hpushes
  have harch : pushed.architecture = machine.architecture :=
    hpushed.architecture.trans hwritten.architecture
  rcases hpushed.stackPointer with ⟨lower, hlower, hdown⟩
  -- What is left of the block is the call alone.
  have hperform : (Instruction.call target returnAddress).perform registry pushed =
      .done () after := by
    rcases (Outcome.andThen_eq_done_iff _ _ flow after).mp hcall with ⟨_, left, hdone, hnext⟩
    rw [hdone, ← ((Outcome.done_eq_done_iff Flow.next flow left after).mp hnext).2]
  refine delivered_of_parts machine written pushed after sp lower placement sequence values
    padding returnAddress hagrees hwritten hpushed hlower ?_
  refine hasCalled_of_perform registry pushed after sequence lower returnAddress target
    (by rw [harch]; exact hsequence) hlower (by rw [harch]; omega) ?_ ?_ ?_ hperform
  · intro link hlink
    rw [harch]
    exact hagrees.bits link (List.mem_append_right _ hlink)
  · intro link hlink
    rw [harch]
    exact (hagrees.link_ne link hlink).1
  · intro link hlink
    rw [harch]
    exact (hagrees.link_ne link hlink).2

-- The callee's count: the slot of argument `i` is as far above the stack
-- pointer of the entry as the offset of its location says.
theorem argument_of_delivered (after : Machine) (sp : Word) (placement : Placement)
    (sequence : ReturnSequence) (values padding : List Word) (returnAddress : Word)
    (hagrees : placement.Agrees after.architecture sequence)
    (hpadding : (padding.length + sequence.slots : Int) = placement.skip.toInt)
    (hsize : after.architecture.pointerSize * (values.length + placement.skip.toInt) < 2 ^ 63)
    (hdelivered : after.Delivered sp placement sequence values padding returnAddress)
    (i : Nat) (hi : i < values.length) :
    ∃ location, placement.location i = some location ∧
      after.readLocation location = .ok (.constant values[i] after.architecture.bits) := by
  by_cases hregister : i < placement.registers.length
  · exact ⟨_, Placement.location_of_lt hregister, hdelivered.inRegister i hregister hi⟩
  · have hregister : placement.registers.length ≤ i := Nat.le_of_not_lt hregister
    rcases hdelivered.stackPointer with ⟨entry, hentry, hup⟩
    -- How many slots above the entry the argument is.
    obtain ⟨rank, hrank⟩ : ∃ rank : Nat,
        rank = i - placement.registers.length + (padding.length + sequence.slots) := ⟨_, rfl⟩
    have hbound : after.architecture.pointerSize * rank < 2 ^ 63 := by
      have hmul : after.architecture.pointerSize * (rank : Int) ≤
          after.architecture.pointerSize * (values.length + placement.skip.toInt) :=
        Int.mul_le_mul_of_nonneg_left (by omega) (by omega)
      have hcast : ((after.architecture.pointerSize * rank : Nat) : Int) =
          after.architecture.pointerSize * (rank : Int) := Int.natCast_mul _ _
      omega
    rcases placement.location_upward after.architecture.pointerSize i rank
      after.architecture.pointerSize_pos hagrees.stride hregister (by omega) (by omega) hbound with
      ⟨offset, hlocation, hoffset⟩
    refine ⟨.stack offset, hlocation, ?_⟩
    -- The same slot as the caller counted it, down from where it started.
    have hlength := placement.length_onStack values padding
    have hsplit : after.architecture.pointerSize *
        ((placement.onStack values padding).length + sequence.slots) =
        after.architecture.pointerSize * rank +
          after.architecture.pointerSize * (values.length - i) := by
      rw [← Nat.mul_add]
      congr 1
      omega
    have hsp := sp.toNat_lt
    refine after.readStack_above entry _ offset _ hentry hoffset hbound (by omega) ?_
    intro address haddress
    exact hdelivered.onStack i hregister hi address (by omega)

end Machine

/-- A callee that is entered where a caller has delivered reads the values in
    order, returns to the return address, and leaves the stack pointer where
    the last push had put it. -/
theorem Activation.roundTrip_of_agrees (setting : Setting) (a : Activation) (sp : Word)
    (placement : Placement) (sequence : ReturnSequence) (values padding : List Word)
    (returnAddress : Word) (hplacement : setting.placement = .ok placement)
    (hsequence : setting.returnSequence = .ok sequence)
    (hagrees : placement.Agrees a.machine.architecture sequence)
    (hpadding : (padding.length + sequence.slots : Int) = placement.skip.toInt)
    (hsize : a.machine.architecture.pointerSize * (values.length + placement.skip.toInt) < 2 ^ 63)
    (hdelivered : a.machine.Delivered sp placement sequence values padding returnAddress) :
    ∃ read left lower,
      a.arguments setting values.length =
        .done (values.map fun value => .constant value a.machine.architecture.bits) read ∧
      read.doReturn setting =
        .done (.constant returnAddress a.machine.architecture.bits) left ∧
      left.machine.readStackPointer = .ok lower ∧
      lower.toNat + a.machine.architecture.pointerSize *
        (placement.onStack values padding).length = sp.toNat := by
  have hrow : ∀ i (h : i < (values.map fun value =>
      Value.constant value a.machine.architecture.bits).length),
      ∃ location, setting.location i = .ok location ∧ a.machine.readLocation location =
        .ok (values.map fun value => Value.constant value a.machine.architecture.bits)[i] := by
    intro i hi
    rw [List.length_map] at hi
    rcases a.machine.argument_of_delivered sp placement sequence values padding returnAddress
      hagrees hpadding hsize hdelivered i hi with ⟨location, hlocation, hread⟩
    refine ⟨location, setting.location_of_placement placement i location hplacement hlocation, ?_⟩
    rw [List.getElem_map]
    exact hread
  rcases a.arguments_eq_done setting _ hrow with ⟨read, hread, hextends⟩
  rw [List.length_map] at hread
  rcases hdelivered.returns with ⟨final, lower, htake, hlower, hdown⟩
  rw [← machine_of_extends a read hextends] at htake
  have hreturn := read.doReturn_of_done setting sequence _ final hsequence htake
  rw [machine_of_extends a read hextends] at hreturn
  exact ⟨read, _, lower, hread, hreturn, hlower, hdown⟩

/-- Whoever calls by a built-in convention is understood by every summary that
    is bound with it, for any number of arguments, and the two leave the stack
    pointer below where it was by what the caller has pushed. -/
theorem Registry.roundTrip_builtin (arch : Architecture) (convention : CallingConvention)
    (placement : Placement) (sequence : ReturnSequence) (values padding : List Word)
    (target returnAddress : Word) (machine after : Machine) (sp : Word) (flow : Flow)
    (summary : Summary) (caller : Option Word) (bound : Bound) (a : Activation)
    (hplacement : Registry.builtin.placement? arch convention = some placement)
    (hsequence : Registry.builtin.returnSequence? arch = some sequence)
    (hsize : arch.pointerSize * (values.length + placement.skip.toInt) < 2 ^ 63)
    (hpadding : (padding.length + sequence.slots : Int) = placement.skip.toInt)
    (hmachine : machine.Reachable) (harch : machine.architecture = arch)
    (hsp : machine.readStackPointer = .ok sp)
    (hrun : (placement.callerBlock values padding target returnAddress).execute
      Registry.builtin machine = .done flow after)
    (hbound : (summary.bind Registry.builtin arch caller (some convention)).result = .ok bound)
    (ha : a.machine = after) :
    ∃ read left lower,
      a.arguments ⟨Registry.builtin, bound.invocation⟩ values.length =
        .done (values.map fun value => .constant value arch.bits) read ∧
      read.doReturn ⟨Registry.builtin, bound.invocation⟩ =
        .done (.constant returnAddress arch.bits) left ∧
      left.machine.readStackPointer = .ok lower ∧
      lower.toNat + arch.pointerSize *
        (placement.callerBlock values padding target returnAddress).countP Instruction.isPush =
          sp.toNat := by
  subst harch
  subst ha
  have hagrees := Placement.agrees_builtin machine.architecture convention placement sequence
    hplacement hsequence
  have hlt := machine.readStackPointer_lt sp (machine.reachable_wellFormed hmachine) hsp
  have hdelivered := Machine.delivered_of_execute Registry.builtin machine a.machine sp flow
    placement sequence values padding target returnAddress hagrees hsequence hsp hlt hrun
  have harch : a.machine.architecture = machine.architecture := by
    rw [← Block.architecture_execute Registry.builtin
      (placement.callerBlock values padding target returnAddress) machine, hrun]
    rfl
  -- The setting answers for the convention that was asked for.
  rcases (summary.bind_result_eq_ok_iff _ _ _ _ bound).mp hbound with ⟨_, rfl⟩
  have hplaced : Setting.placement ⟨Registry.builtin, Registry.builtin.invocation
      machine.architecture caller (some convention)⟩ = .ok placement :=
    (Setting.placement_eq_ok_iff _ placement).mpr hplacement
  have hback : Setting.returnSequence ⟨Registry.builtin, Registry.builtin.invocation
      machine.architecture caller (some convention)⟩ = .ok sequence :=
    (Setting.returnSequence_eq_ok_iff _ sequence).mpr hsequence
  rw [Placement.countP_callerBlock, ← harch]
  rw [← harch] at hagrees hsize hplaced hback
  exact a.roundTrip_of_agrees _ sp placement sequence values padding returnAddress hplaced hback
    hagrees hpadding hsize hdelivered

namespace Machine

/-- A caller of the Microsoft convention with two arguments more than there
    are registers for. -/
def sixArguments : Block :=
  Placement.callerBlock ⟨[Amd64.rcx, Amd64.rdx, Amd64.r8, Amd64.r9], 5, -8⟩
    [1, 2, 3, 4, 5, 6] [0, 0, 0, 0] 0x401000 0x402000

/-- The machine on which the callee of the six arguments is entered. -/
def sixDelivered : Machine :=
  (sixArguments.execute Registry.builtin (withStackPointer .amd64 0x7fff0000)).state

theorem roundTrip_sixArguments :
    ∃ read left lower,
      (Activation.start sixDelivered .zero).arguments
        ⟨Registry.builtin, ⟨some 0x400000, .amd64, some .microsoftX64⟩⟩ 6 =
        .done (([1, 2, 3, 4, 5, 6] : List Word).map fun value => .constant value 64) read ∧
      read.doReturn ⟨Registry.builtin, ⟨some 0x400000, .amd64, some .microsoftX64⟩⟩ =
        .done (.constant 0x402000 64) left ∧
      left.machine.readStackPointer = .ok lower ∧ lower.toNat + 8 * 6 = 0x7fff0000 :=
  Registry.roundTrip_builtin .amd64 .microsoftX64
    ⟨[Amd64.rcx, Amd64.rdx, Amd64.r8, Amd64.r9], 5, -8⟩ .popStack [1, 2, 3, 4, 5, 6] [0, 0, 0, 0]
    0x401000 0x402000 (withStackPointer .amd64 0x7fff0000) sixDelivered 0x7fff0000 .next
    (.incomplete "callee") (some 0x400000)
    ⟨.incomplete "callee", ⟨some 0x400000, .amd64, some .microsoftX64⟩, none⟩
    (.start sixDelivered .zero) rfl rfl (by decide) (by decide)
    (Reachable.withStackPointer .amd64 0x7fff0000) rfl rfl
    (Outcome.eq_done_of_result _ _ rfl) rfl rfl

end Machine

end CallSummary
