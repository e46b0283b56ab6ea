import CallSummary.Proofs.Machine.Reachable
import CallSummary.Proofs.Machine.StackRead

/-!
# Offsets, Pushes and Pops

The two ways to reach a slot lead to the same slots.

A write by offset sets one slot, and it is known which: the one at the stack
pointer minus the offset, as exact integers. Two offsets never lead to one
slot, because neither the negation nor the sum can wrap; where one of them
would, there is no address at all. So a read at another offset looks at
another slot, and comes to the answer or the error of before. `HasStored` is
everything a write leaves. Its last clause speaks of all offsets, also of
those that have no address.

A push is two such accesses in a row. It moves the stack pointer down by a
pointer, and then it writes at offset zero. The one thing to watch is the width
of the stack pointer. The register cuts what is written to it, and the write
goes where the register points after that (`moveAndWrite_eq_done`), while a
push writes to the address it has computed. So the address has to fit, which it
does wherever the old one did, and in a well-formed machine that is always so
(`readStackPointer_lt`). A stack pointer that was made too wide for its
register tells the two apart (`push_overwide`).

A pop reads at offset zero and moves the stack pointer up. The slot stays as
it was.

## Main definitions

* `HasStored`: A slot was set, and nothing else has changed.
* `moveAndWrite`: Set the stack pointer, and write where it points.
* `PushRefused`: Why a push is refused.

## Theorems

* `hasStored_of_writeStack`: What a write by offset leaves.
* `moveAndWrite_eq_done`: What the two accesses leave.
* `push_eq_failed_iff`: A push is refused for what the rules say, and for
  nothing else.
* `pop_eq_readStack`: A pop reads at offset zero.
* `stack_agreement`: Offsets, pushes and pops are about the same slots.
* `stack_agreement_above`: A write above the stack pointer, a push and a pop.
* `push_overwide`: A push that is not the two accesses in a row.
-/

namespace CallSummary

namespace Machine

/-- The slot at the stack pointer minus the offset holds the value. No other
    slot has changed, no register, and no answer at another offset. -/
structure HasStored (before after : Machine) (offset : Offset) (value : Value) : Prop where
  slot : ∃ sp address : Word, before.readStackPointer = .ok sp ∧
    (address.toNat : Int) = sp.toNat - offset.toInt ∧ after.stack[address]? = some value ∧
      ∀ other : Word, other ≠ address → after.stack[other]? = before.stack[other]?
  registers : after.registers = before.registers
  architecture : after.architecture = before.architecture
  read_same : after.readStack offset = .ok value
  read_other : ∀ other : Offset, other ≠ offset → after.readStack other = before.readStack other

/-- Two offsets from one stack pointer do not meet in a slot. -/
theorem offset_eq_of_address (sp address : Word) (offset other : Offset)
    (hoffset : (address.toNat : Int) = sp.toNat - offset.toInt)
    (hother : (address.toNat : Int) = sp.toNat - other.toInt) : other = offset := by
  rw [← Int64.toInt_inj]
  omega

theorem hasStored_of_writeStack (machine after : Machine) (offset : Offset) (value : Value)
    (h : machine.writeStack offset value = .done () after) :
    machine.HasStored after offset value := by
  rcases (writeStack_eq_done_iff machine after offset value).mp h with
    ⟨_, address, haddress, rfl⟩
  rcases stackAddress_eq_ok_iff.mp haddress with ⟨sp, hsp, hexact, hmin⟩
  have hsame : (machine.store address value).stack[address]? = some value := by
    rw [getElem?_stack_store, if_pos rfl]
  have hkept : ∀ other : Word, other ≠ address →
      (machine.store address value).stack[other]? = machine.stack[other]? := by
    intro other hne
    rw [getElem?_stack_store, if_neg fun hc => hne hc.symm]
  refine ⟨⟨sp, address, hsp, hexact, hsame, hkept⟩, rfl, rfl, ?_, ?_⟩
  · exact readStack_of_address _ sp address offset value hsp hexact hmin hsame
  · intro other hne
    -- The two machines differ in one slot, and the other offset leads past it.
    refine readStack_congr _ machine other ⟨rfl, rfl, ?_⟩
    intro sp' address' hsp' hexact'
    rw [readStackPointer_store, hsp, Except.ok.injEq] at hsp'
    subst hsp'
    refine hkept address' ?_
    intro hmeet
    rw [hmeet] at hexact'
    exact hne (offset_eq_of_address sp address offset other hexact hexact')

/-- Set the stack pointer to the address, and write the value where it then
    points. -/
def moveAndWrite (machine : Machine) (address : Word) (value : Value) :
    Outcome Machine AccessError Unit :=
  let sp := machine.architecture.stackPointer
  (machine.writeRegister sp (.constant address sp.bits)).andThen fun _ moved =>
    moved.writeStack 0 value

/-- The two accesses leave the value where the stack pointer register points,
    which is the address as far as the register is wide. -/
theorem moveAndWrite_eq_done (machine : Machine) (address : Word) (value : Value)
    (hbits : value.bits = machine.architecture.bits) :
    machine.moveAndWrite address value =
      .done () ((machine.store (Value.lowBits machine.architecture.bits address)
        value).setStackPointer address) := by
  unfold moveAndWrite
  simp only
  rw [writeRegister_of_bits machine _ _ (Value.bits_constant _ _), Outcome.andThen_done]
  -- The write looks the address up in the register, which has cut it by then.
  have hmoved := readStackPointer_setStackPointer machine address
  have haddress : (machine.setStackPointer address).stackAddress 0 =
      .ok (Value.lowBits machine.architecture.bits address) :=
    stackAddress_eq_ok_iff.mpr ⟨_, hmoved, (Int.sub_zero _).symm, by decide⟩
  exact (writeStack_eq_done_iff (machine.setStackPointer address) _ 0 value).mpr
    ⟨hbits, _, haddress, rfl⟩

/-- Why a push is refused: the value has another width, or the stack pointer
    cannot be read as an address, or there is no room below it. -/
inductive PushRefused (machine : Machine) (value : Value) : AccessError → Prop where
  | width (hbits : value.bits ≠ machine.architecture.bits) :
      PushRefused machine value (.invalidArguments
        (.slotWidth machine.architecture.bits value.bits))
  | noPointer (cause : AccessError) (hbits : value.bits = machine.architecture.bits)
      (hsp : machine.StackPointerRead (.error cause)) : PushRefused machine value cause
  | noRoom (sp : Word) (hbits : value.bits = machine.architecture.bits)
      (hsp : machine.StackPointerRead (.ok sp))
      (hroom : sp.toNat < machine.architecture.pointerSize) :
      PushRefused machine value (.invalidArguments (.pushOverflow sp))

theorem push_of_refused (machine : Machine) (value : Value) (cause : AccessError)
    (h : machine.PushRefused value cause) : machine.push value = .failed cause machine := by
  cases h with
  | width hbits => exact if_neg hbits
  | noPointer cause hbits hsp =>
      have hread := (machine.readStackPointer_eq_iff _).mpr hsp
      unfold push
      simp only [if_pos hbits, hread]
  | noRoom sp hbits hsp hroom =>
      have hread := (machine.readStackPointer_eq_iff _).mpr hsp
      have hlower : Word.ofInt? (sp.toNat - machine.architecture.pointerSize) = none :=
        Word.ofInt?_eq_none_iff.mpr (by omega)
      unfold push
      simp only [if_pos hbits, hread, hlower]

/-- A push that is not refused by one of the rules is done. -/
theorem exists_pushRefused (machine : Machine) (value : Value)
    (h : ∀ after, machine.push value ≠ .done () after) :
    ∃ cause, machine.PushRefused value cause := by
  by_cases hbits : value.bits = machine.architecture.bits
  · rcases machine.exists_stackPointerRead with ⟨cause | sp, hsp⟩
    · exact ⟨cause, .noPointer cause hbits hsp⟩
    · by_cases hroom : sp.toNat < machine.architecture.pointerSize
      · exact ⟨_, .noRoom sp hbits hsp hroom⟩
      · -- With room below the stack pointer the push would have been done.
        have hword := sp.toNat_lt
        rcases Word.exists_toNat_eq (sp.toNat - machine.architecture.pointerSize) (by omega) with
          ⟨lower, hlower⟩
        refine absurd ?_ (h ((machine.store lower value).setStackPointer lower))
        exact (push_eq_done_iff machine _ value).mpr
          ⟨hbits, sp, lower, (machine.readStackPointer_eq_iff _).mpr hsp, by omega, rfl⟩
  · exact ⟨_, .width hbits⟩

/-- A push is refused for what the rules say and for nothing else, and then it
    has changed nothing. -/
theorem push_eq_failed_iff (machine after : Machine) (value : Value) (cause : AccessError) :
    machine.push value = .failed cause after ↔
      after = machine ∧ machine.PushRefused value cause := by
  constructor
  · intro h
    have hnever : ∀ done, machine.push value ≠ .done () done := by
      intro done hdone
      rw [h, Outcome.failed_ne_done] at hdone
      exact hdone
    rcases machine.exists_pushRefused value hnever with ⟨found, hfound⟩
    rw [machine.push_of_refused value found hfound] at h
    -- The rule that was found is the one that has refused the push.
    cases h
    exact ⟨rfl, hfound⟩
  · intro h
    rw [h.1]
    exact machine.push_of_refused value cause h.2

/-- A pop answers with what is read at offset zero, and leaves the slots as
    they were. -/
theorem pop_eq_readStack (machine after : Machine) (value : Value)
    (h : machine.pop = .done value after) :
    machine.readStack 0 = .ok value ∧ after.stack = machine.stack := by
  rcases (pop_eq_done_iff machine after value).mp h with ⟨sp, upper, hsp, hslot, _, rfl⟩
  refine ⟨?_, stack_setStackPointer machine upper⟩
  exact readStack_of_address machine sp sp 0 value hsp (Int.sub_zero _).symm (by decide) hslot

/-- Offsets, pushes and pops are about the same slots. A write by offset sets
    the slot at the exact address and changes nothing else, and no read at
    another offset notices. A push is a move of the stack pointer and a write
    at offset zero, as long as the address it writes to fits the stack pointer,
    which it does in every well-formed machine. A pop reads at offset zero and
    leaves the slots alone. And a push is refused for the width of the value,
    for a stack pointer that cannot be read as an address, or for want of
    room. -/
theorem stack_agreement (machine : Machine) :
    (∀ (offset : Offset) (value : Value) (after : Machine),
        machine.writeStack offset value = .done () after →
          machine.HasStored after offset value) ∧
      (∀ (value : Value) (after : Machine), machine.push value = .done () after →
        ∃ sp lower, machine.readStackPointer = .ok sp ∧
          lower.toNat + machine.architecture.pointerSize = sp.toNat ∧
          after = (machine.store lower value).setStackPointer lower ∧
          machine.moveAndWrite lower value =
            .done () ((machine.store (Value.lowBits machine.architecture.bits lower)
              value).setStackPointer lower) ∧
          (machine.WellFormed → sp.toNat < 2 ^ machine.architecture.bits) ∧
          (lower.toNat < 2 ^ machine.architecture.bits →
            machine.moveAndWrite lower value = .done () after)) ∧
      (∀ (value : Value) (after : Machine), machine.pop = .done value after →
        machine.readStack 0 = .ok value ∧ after.stack = machine.stack) ∧
      ∀ (value : Value) (cause : AccessError) (after : Machine),
        machine.push value = .failed cause after ↔
          after = machine ∧ machine.PushRefused value cause := by
  refine ⟨fun offset value after => hasStored_of_writeStack machine after offset value, ?_,
    fun value after => pop_eq_readStack machine after value,
    fun value cause after => push_eq_failed_iff machine after value cause⟩
  intro value after h
  rcases (push_eq_done_iff machine after value).mp h with ⟨hbits, sp, lower, hsp, hroom, rfl⟩
  have hmove := moveAndWrite_eq_done machine lower value hbits
  refine ⟨sp, lower, hsp, hroom, rfl, hmove, ?_, ?_⟩
  · exact fun hmachine => readStackPointer_lt machine sp hmachine hsp
  · intro hlt
    rw [hmove, Value.lowBits_of_lt _ lower hlt]

/-- A write of the slot above the stack pointer, a push that keeps it, a pop
    that gives the pushed value back, and a push that has no room. -/
theorem stack_agreement_above :
    let machine := withStackPointer .x86 0x1000
    let written := (machine.writeStack (-4) (.constant 7 32)).state
    let pushed := (written.push (.constant 9 32)).state
    machine.HasStored written (-4) (.constant 7 32) ∧
      (∃ sp lower, written.readStackPointer = .ok sp ∧ lower.toNat + 4 = sp.toNat ∧
        written.moveAndWrite lower (.constant 9 32) = .done () pushed) ∧
      pushed.readStack 0 = .ok (.constant 9 32) ∧
      (withStackPointer .x86 3).PushRefused (.constant 9 32)
        (.invalidArguments (.pushOverflow 3)) := by
  intro machine written pushed
  have hwrite : machine.writeStack (-4) (.constant 7 32) = .done () written :=
    Outcome.eq_done_of_result _ () rfl
  have hpush : written.push (.constant 9 32) = .done () pushed :=
    Outcome.eq_done_of_result _ () rfl
  have hwritten : written.WellFormed :=
    wellFormed_writeStack machine (-4) _
      (wellFormed_setStackPointer _ 0x1000 (wellFormed_new .x86)) (Value.fits_constant 7 32)
  rcases (stack_agreement written).2.1 _ pushed hpush with
    ⟨sp, lower, hsp, hroom, _, _, hsplt, hmove⟩
  have hlt := hsplt hwritten
  have hlower : lower.toNat < 2 ^ written.architecture.bits := by omega
  have hpop : pushed.pop = .done (.constant 9 32) (pushed.setStackPointer sp) := by
    rcases push_exact written pushed _ sp hsp hlt hpush with
      ⟨bottom, hbottom, hleft, hread⟩
    have hslot : pushed.stack[bottom]? = some (.constant 9 32) := by
      rw [hleft, stack_setStackPointer, getElem?_stack_store, if_pos rfl]
    exact (pop_eq_done_iff pushed _ _).mpr ⟨bottom, sp, hread, hslot, hbottom.symm, rfl⟩
  refine ⟨(stack_agreement machine).1 (-4) _ written hwrite,
    ⟨sp, lower, hsp, hroom, hmove hlower⟩,
    ((stack_agreement pushed).2.2.1 _ _ hpop).1, ?_⟩
  have hrefused : (withStackPointer .x86 3).push (.constant 9 32) =
      .failed (.invalidArguments (.pushOverflow 3)) (withStackPointer .x86 3) := rfl
  exact (((stack_agreement _).2.2.2 _ _ _).mp hrefused).2

/-- A machine whose stack pointer was given a value wider than it says. -/
def overwide : Machine :=
  ((new .x86).writeRegister X86.esp (.concrete 0x100000004 32)).state

/-- The push goes to the address below the stack pointer. The two accesses go to
    what the register keeps of that address, which is zero. -/
theorem push_overwide :
    overwide.readStackPointer = .ok 0x100000004 ∧
      (∃ after, overwide.push (.constant 9 32) = .done () after ∧
        after.readStackPointer = .ok 0 ∧
        after.stack[(0x100000000 : Word)]? = some (.constant 9 32) ∧
        after.stack[(0 : Word)]? = none) ∧
      (∃ after, overwide.moveAndWrite 0x100000000 (.constant 9 32) = .done () after ∧
        after.readStackPointer = .ok 0 ∧
        after.stack[(0x100000000 : Word)]? = none ∧
        after.stack[(0 : Word)]? = some (.constant 9 32)) ∧
      overwide.push (.constant 9 32) ≠ overwide.moveAndWrite 0x100000000 (.constant 9 32) := by
  have hpush : (overwide.push (.constant 9 32)).state.stack[(0 : Word)]? = none := rfl
  have hmove : (overwide.moveAndWrite 0x100000000 (.constant 9 32)).state.stack[(0 : Word)]? =
      some (.constant 9 32) := rfl
  refine ⟨rfl, ⟨_, Outcome.eq_done_of_result _ () rfl, rfl, rfl, hpush⟩,
    ⟨_, Outcome.eq_done_of_result _ () rfl, rfl, rfl, hmove⟩, ?_⟩
  intro hsame
  rw [hsame, hmove] at hpush
  cases hpush

end Machine

end CallSummary
