import CallSummary.Proofs.Call.Services

/-!
# Exactness of a Pop

By how much the stack pointer moves when a slot is popped, as a number and
not as a word.

A pop adds the size of a pointer to the stack pointer, and the slots that
were above the old one are then found at offsets that are larger by as much.
All of that rests on the sum being exact. Two widths are in play. The sum is
formed as a 64-bit word and refused when it is none, but the register that
takes it is as wide as a pointer, and what does not fit is dropped there. On
the architectures with 64-bit pointers both limits are the same. On those
with 32-bit pointers there is a gap between them, and a stack pointer in the
last slot of the address space falls into it: the pop succeeds, and the stack
pointer comes out at the bottom.

`PopExact` is what a caller would expect of a machine: no success wraps, a
sum that does not fit is refused without a trace, and offsets shift. It holds
of a machine exactly when the machine is not in the gap, which is
`popExact_iff`. Nothing else is needed, in particular no bound on the stack
pointer, so the statement covers every machine and not only reachable ones.
`popExact_fails_at_top` is the gap at its smallest, on a reachable machine.

A return through the stack is a pop, so `Pops` and `PopRefused` speak of both
at once.

## Main definitions

* `Machine.Pops`: A slot is popped, directly or by a return.
* `Machine.PopRefused`: Neither a pop nor a return succeeds, and both leave
  everything as it was.
* `Machine.PopExact`: What is expected of pops on a machine.
* `Machine.PopWraps`: The new stack pointer is a word but no pointer.

## Theorems

* `pops_iff`: A return through the stack pops what a pop does.
* `pop_stackPointer`: The stack pointer after a pop, modulo the width.
* `readStack_shift`: Slots are found through shifted offsets.
* `popRefused_of_no_room`: A sum that is no word is refused.
* `pop_of_wraps`: Inside the gap the pop succeeds.
* `popExact_iff`: Pops are exact away from the gap, and only there.
* `popExact_fails_at_top`: A reachable machine inside the gap.
-/

namespace CallSummary

namespace Machine

/-- A slot is popped off the machine, by itself or as the target of a
    return. -/
inductive Pops (machine : Machine) (value : Value) : Machine → Prop
  | direct (after : Machine) : machine.pop = .done value after → Pops machine value after
  | byReturn (setting : Setting) (a after : Activation) : a.machine = machine →
      setting.returnSequence = .ok .popStack → a.doReturn setting = .done value after →
      Pops machine value after.machine

/-- Popping fails for what was asked, and so does returning through the
    stack. Neither leaves a trace. -/
def PopRefused (machine : Machine) : Prop :=
  ∃ cause, machine.pop = .failed (.invalidArguments cause) machine ∧
    ∀ (setting : Setting) (a : Activation), a.machine = machine →
      setting.returnSequence = .ok .popStack →
      a.doReturn setting = .failed (.access (.invalidArguments cause)) a

/-- Pops move the stack pointer by exactly one pointer, are refused where
    that is impossible, and shift the offsets of the slots above. -/
structure PopExact (machine : Machine) : Prop where
  moves : ∀ (value : Value) (after : Machine), machine.Pops value after →
    ∃ sp above, machine.readStackPointer = .ok sp ∧ after.readStackPointer = .ok above ∧
      above.toNat = sp.toNat + machine.architecture.pointerSize
  refuses : ∀ (sp : Word) (value : Value), machine.readStackPointer = .ok sp →
    machine.stack[sp]? = some value →
    2 ^ machine.architecture.bits ≤ sp.toNat + machine.architecture.pointerSize →
    machine.PopRefused
  shifts : ∀ (value : Value) (after : Machine), machine.Pops value after →
    ∀ (offset shifted : Offset),
      shifted.toInt = offset.toInt - machine.architecture.pointerSize →
      offset.toInt ≠ -2 ^ 63 → shifted.toInt ≠ -2 ^ 63 →
      ∀ found, machine.readStack shifted = .ok found → after.readStack offset = .ok found

/-- The slot at the stack pointer is defined, and the address past it is a
    word that the stack pointer cannot hold. -/
def PopWraps (machine : Machine) : Prop :=
  ∃ sp value, machine.readStackPointer = .ok sp ∧ machine.stack[sp]? = some value ∧
    2 ^ machine.architecture.bits ≤ sp.toNat + machine.architecture.pointerSize ∧
    sp.toNat + machine.architecture.pointerSize < 2 ^ 64

/-- A return through the stack pops what a pop does. -/
theorem pops_iff (machine after : Machine) (value : Value) :
    machine.Pops value after ↔ machine.pop = .done value after := by
  constructor
  · intro h
    cases h with
    | direct _ hpop => exact hpop
    | byReturn setting a next hmachine hsequence hreturn =>
        rcases (Activation.doReturn_eq_done_iff a next setting value).mp hreturn with
          ⟨sequence, left, hfound, htake, rfl⟩
        rw [hsequence, Except.ok.injEq] at hfound
        rw [← hfound, hmachine] at htake
        exact htake
  · exact Pops.direct after

/-- The stack pointer after a pop is the exact sum modulo what its register
    can hold, and the sum is a word. -/
theorem pop_stackPointer (machine after : Machine) (value : Value)
    (hpop : machine.pop = .done value after) :
    ∃ sp above, machine.readStackPointer = .ok sp ∧ machine.stack[sp]? = some value ∧
      after.readStackPointer = .ok above ∧
      above.toNat =
        (sp.toNat + machine.architecture.pointerSize) % 2 ^ machine.architecture.bits ∧
      sp.toNat + machine.architecture.pointerSize < 2 ^ 64 := by
  rcases (pop_eq_done_iff machine after value).mp hpop with
    ⟨sp, upper, hsp, hslot, hupper, rfl⟩
  refine ⟨sp, Value.lowBits machine.architecture.bits upper, hsp, hslot,
    readStackPointer_setStackPointer machine upper, ?_, ?_⟩
  · rw [Value.toNat_lowBits_eq, hupper]
  · rw [← hupper]
    exact upper.toNat_lt

/-- A slot is found through a shifted offset when the stack pointer has moved
    as far the other way. -/
theorem readStack_shift (machine after : Machine) (sp above : Word) (offset shifted : Offset)
    (found : Value) (hsp : machine.readStackPointer = .ok sp)
    (habove : after.readStackPointer = .ok above) (hstack : after.stack = machine.stack)
    (hshift : (above.toNat : Int) - offset.toInt = sp.toNat - shifted.toInt)
    (hmin : offset.toInt ≠ -2 ^ 63) (hread : machine.readStack shifted = .ok found) :
    after.readStack offset = .ok found := by
  rcases (readStack_eq_ok_iff machine shifted found).mp hread with ⟨address, haddress, hslot⟩
  rcases stackAddress_eq_ok_iff.mp haddress with ⟨other, hother, hexact, _⟩
  rw [hsp, Except.ok.injEq] at hother
  subst hother
  refine readStack_of_address after above address offset found habove ?_ hmin ?_
  · omega
  · rw [hstack]
    exact hslot

/-- At the end of the words both a pop and a return are refused. -/
theorem popRefused_of_no_room (machine : Machine) (sp : Word) (value : Value)
    (hsp : machine.readStackPointer = .ok sp) (hslot : machine.stack[sp]? = some value)
    (hroom : 2 ^ 64 ≤ sp.toNat + machine.architecture.pointerSize) : machine.PopRefused := by
  have hpop := pop_eq_failed_of_no_room machine sp value hsp hslot hroom
  refine ⟨.popOverflow sp, hpop, ?_⟩
  intro setting a hmachine hsequence
  subst hmachine
  exact Activation.doReturn_of_failed a setting .popStack _ a.machine hsequence hpop

/-- Inside the gap there is nothing that stops the pop. -/
theorem pop_of_wraps (machine : Machine) (h : machine.PopWraps) :
    ∃ value after, machine.pop = .done value after := by
  rcases h with ⟨sp, value, hsp, hslot, _, hword⟩
  have hupper : (UInt64.ofNat (sp.toNat + machine.architecture.pointerSize)).toNat =
      sp.toNat + machine.architecture.pointerSize :=
    UInt64.toNat_ofNat_of_lt' hword
  exact ⟨value, _, (pop_eq_done_iff machine _ value).mpr ⟨sp, _, hsp, hslot, hupper, rfl⟩⟩

theorem not_popExact_of_wraps (machine : Machine) (h : machine.PopWraps) :
    ¬ machine.PopExact := by
  intro hexact
  rcases pop_of_wraps machine h with ⟨value, after, hdone⟩
  rcases h with ⟨sp, found, hsp, hslot, hwide, _⟩
  rcases hexact.refuses sp found hsp hslot hwide with ⟨cause, hfailed, _⟩
  rw [hfailed, Outcome.failed_ne_done] at hdone
  exact hdone

/-- Away from the gap the sum is exact whenever it is a word. -/
theorem popExact_of_not_wraps (machine : Machine) (h : ¬ machine.PopWraps) :
    machine.PopExact := by
  -- A success is a sum that is a word, so it fits unless the machine wraps.
  have hfits : ∀ (value : Value) (after : Machine), machine.pop = .done value after →
      ∃ sp above, machine.readStackPointer = .ok sp ∧ after.readStackPointer = .ok above ∧
        above.toNat = sp.toNat + machine.architecture.pointerSize := by
    intro value after hpop
    rcases pop_stackPointer machine after value hpop with
      ⟨sp, above, hsp, hslot, habove, hsum, hword⟩
    refine ⟨sp, above, hsp, habove, ?_⟩
    rw [hsum]
    by_cases hwide : 2 ^ machine.architecture.bits ≤ sp.toNat + machine.architecture.pointerSize
    · exact absurd ⟨sp, value, hsp, hslot, hwide, hword⟩ h
    · exact Nat.mod_eq_of_lt (Nat.lt_of_not_le hwide)
  refine ⟨?_, ?_, ?_⟩
  · intro value after hpops
    exact hfits value after ((pops_iff machine after value).mp hpops)
  · intro sp value hsp hslot hwide
    by_cases hword : sp.toNat + machine.architecture.pointerSize < 2 ^ 64
    · exact absurd ⟨sp, value, hsp, hslot, hwide, hword⟩ h
    · exact popRefused_of_no_room machine sp value hsp hslot (Nat.le_of_not_lt hword)
  · intro value after hpops offset shifted hshifted hmin _ found hread
    have hpop := (pops_iff machine after value).mp hpops
    rcases hfits value after hpop with ⟨sp, above, hsp, habove, hsum⟩
    have hstack : after.stack = machine.stack := by
      rcases (pop_eq_done_iff machine after value).mp hpop with ⟨_, upper, _, _, _, rfl⟩
      exact stack_setStackPointer machine upper
    exact readStack_shift machine after sp above offset shifted found hsp habove hstack
      (by omega) hmin hread

/-- The gap lies between two widths, so only 32-bit pointers have one. -/
theorem bits_of_wraps (machine : Machine) (h : machine.PopWraps) :
    machine.architecture.bits = 32 := by
  rcases h with ⟨sp, value, _, _, hwide, hword⟩
  rcases machine.architecture.pointerSize_cases with ⟨_, hbits⟩ | ⟨_, hbits⟩
  · exact hbits
  · rw [hbits] at hwide
    omega

/-- Pops on a machine are exact unless the new stack pointer is a word that
    its register cannot hold. Where it is one, the pointers have 32 bits, the
    pop succeeds all the same, and the stack pointer is the sum with the rest
    dropped. -/
theorem popExact_iff (machine : Machine) :
    (machine.PopExact ↔ ¬ machine.PopWraps) ∧
      (machine.PopWraps → machine.architecture.bits = 32 ∧
        ∃ value after sp above, machine.pop = .done value after ∧
          machine.readStackPointer = .ok sp ∧ after.readStackPointer = .ok above ∧
          above.toNat = (sp.toNat + machine.architecture.pointerSize) % 2 ^ 32) := by
  refine ⟨⟨fun hexact hwraps => not_popExact_of_wraps machine hwraps hexact,
    popExact_of_not_wraps machine⟩, ?_⟩
  intro hwraps
  have hbits := bits_of_wraps machine hwraps
  rcases pop_of_wraps machine hwraps with ⟨value, after, hdone⟩
  rcases pop_stackPointer machine after value hdone with ⟨sp, above, hsp, _, habove, hsum, _⟩
  refine ⟨hbits, value, after, sp, above, hdone, hsp, habove, ?_⟩
  rw [hsum, hbits]

/-- A machine with 32-bit pointers whose only slot is the last one. -/
def lastSlot : Machine :=
  ((withStackPointer .x86 0xfffffffc).writeStack 0 (.constant 1 32)).state

/-- The expectation fails on a machine that two accesses lead to. -/
theorem popExact_fails_at_top : lastSlot.Reachable ∧ ¬ lastSlot.PopExact := by
  refine ⟨?_, not_popExact_of_wraps lastSlot ?_⟩
  · exact Reachable.writeStack _ 0 _ (Reachable.withStackPointer .x86 0xfffffffc)
      (Value.fits_constant 1 32)
  · exact ⟨0xfffffffc, .constant 1 32, rfl, rfl, by decide, by decide⟩

end Machine

end CallSummary
