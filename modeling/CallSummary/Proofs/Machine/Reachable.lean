import CallSummary.Proofs.Machine.Access

/-!
# Reachable Machines

The machines that a run can come to, and the two facts all of them share.

A machine is reachable if it is new, or has a stack pointer alone, or if an
access was made to a reachable machine. Failed accesses count: they leave a
machine too. The values written are required to fit their width, since every
value a program can make does: a constant is cut to its width, and a symbol
has no word at all. What is excluded is a concrete value put together by hand
with a word its width cannot hold.

`WellFormed` is the invariant. Every value held anywhere fits its width, and
every stack slot is as wide as a pointer. Nothing is said about the widths of
registers, because a register may be written through any reference of the
same offset; it is the read that compares the widths.

Accesses keep the invariant one by one, and `reachable_wellFormed` follows by
induction. It is what bounds a stack pointer, a return address or an
instruction pointer that was read from a machine by the width of a pointer.

Blocks and programs do nothing to a machine but make accesses to it. So what
they keep is said once for every property of machines that accesses keep and
that tells what is read from one. `Machine.Invariant` is that condition on a
property. Being reachable satisfies it, and so does being well-formed and of
one architecture.

## Main definitions

* `Value.Fits`: The word of a value is below two to its width.
* `Machine.WellFormed`: Values fit, and slots have pointer width.
* `Machine.Reachable`: The machines that accesses lead to.
* `Machine.Invariant`: A property that accesses with fitting values keep.

## Theorems

* `fits_constant`: A constant fits.
* `fits_iff`: What fits is a constant or a symbol.
* `readRegister_fits`, `pop_fits`: What is read from a well-formed machine
  fits.
* `wellFormed_writeRegister`, `wellFormed_writeStack`, `wellFormed_push`,
  `wellFormed_pop`: Accesses keep a machine well-formed.
* `reachable_wellFormed`: Every reachable machine is well-formed.
* `invariant_reachable`, `invariant_wellFormed`: Two properties that accesses
  keep.
* `readStackPointer_lt`: The stack pointer is below two to the width of a
  pointer.
-/

namespace CallSummary

namespace Value

/-- The word of a concrete value is one that its width can hold. -/
def Fits : Value → Prop
  | .concrete word bits => word.toNat < 2 ^ bits
  | .symbol _ _ => True

theorem fits_constant (word : Word) (bits : Nat) : (constant word bits).Fits := by
  simp only [constant, Fits, toNat_lowBits_eq]
  exact Nat.mod_lt _ (Nat.pow_pos (by decide))

theorem fits_symbol (name : String) (bits : Nat) : (symbol name bits).Fits := trivial

/-- The values that fit are those that can be made: a constant, whose word is
    cut to the width, or a symbol. -/
theorem fits_iff (value : Value) :
    value.Fits ↔
      (∃ word bits, value = constant word bits) ∨ ∃ name bits, value = symbol name bits := by
  constructor
  · intro h
    cases value with
    | concrete word bits =>
        -- The word is below two to the width, so nothing of it is cut.
        exact .inl ⟨word, bits, (constant_of_lt word bits h).symm⟩
    | symbol name bits => exact .inr ⟨name, bits, rfl⟩
  · rintro (⟨word, bits, rfl⟩ | ⟨name, bits, rfl⟩)
    · exact fits_constant word bits
    · exact fits_symbol name bits

theorem lt_of_fits (value : Value) (word : Word) (hword : value.word? = some word)
    (hfits : value.Fits) : word.toNat < 2 ^ value.bits := by
  cases value with
  | concrete held bits =>
      rw [← Option.some.inj hword]
      exact hfits
  | symbol name bits => simp only [word?, reduceCtorEq] at hword

end Value

namespace Machine

/-- Everything held fits its width, and slots are as wide as a pointer. -/
structure WellFormed (machine : Machine) : Prop where
  register_fits : ∀ (offset : Nat) (value : Value),
    machine.registers[offset]? = some value → value.Fits
  slot_fits : ∀ (address : Word) (value : Value),
    machine.stack[address]? = some value → value.Fits
  slot_bits : ∀ (address : Word) (value : Value),
    machine.stack[address]? = some value → value.bits = machine.architecture.bits

/-- A machine that accesses with fitting values lead to. -/
inductive Reachable : Machine → Prop
  | new (arch : Architecture) : Reachable (new arch)
  | withStackPointer (arch : Architecture) (address : Word) :
      Reachable (withStackPointer arch address)
  | writeRegister (machine : Machine) (register : Register) (value : Value) :
      Reachable machine → value.Fits → Reachable (machine.writeRegister register value).state
  | writeStack (machine : Machine) (offset : Offset) (value : Value) :
      Reachable machine → value.Fits → Reachable (machine.writeStack offset value).state
  | push (machine : Machine) (value : Value) :
      Reachable machine → value.Fits → Reachable (machine.push value).state
  | pop (machine : Machine) : Reachable machine → Reachable machine.pop.state

theorem wellFormed_new (arch : Architecture) : (new arch).WellFormed where
  register_fits offset value h := by simp [new] at h
  slot_fits address value h := by simp [new] at h
  slot_bits address value h := by simp [new] at h

theorem wellFormed_assign (machine : Machine) (offset : Nat) (value : Value)
    (h : machine.WellFormed) (hvalue : value.Fits) : (machine.assign offset value).WellFormed where
  register_fits other held hheld := by
    rw [getElem?_registers_assign] at hheld
    by_cases hother : offset = other
    · rw [if_pos hother, Option.some.injEq] at hheld
      rw [← hheld]
      exact hvalue
    · rw [if_neg hother] at hheld
      exact h.register_fits other held hheld
  slot_fits := h.slot_fits
  slot_bits := h.slot_bits

theorem wellFormed_store (machine : Machine) (address : Word) (value : Value)
    (h : machine.WellFormed) (hvalue : value.Fits)
    (hbits : value.bits = machine.architecture.bits) :
    (machine.store address value).WellFormed where
  register_fits := h.register_fits
  slot_fits other held hheld := by
    rw [getElem?_stack_store] at hheld
    by_cases hother : address = other
    · rw [if_pos hother, Option.some.injEq] at hheld
      rw [← hheld]
      exact hvalue
    · rw [if_neg hother] at hheld
      exact h.slot_fits other held hheld
  slot_bits other held hheld := by
    rw [getElem?_stack_store] at hheld
    by_cases hother : address = other
    · rw [if_pos hother, Option.some.injEq] at hheld
      rw [← hheld]
      exact hbits
    · rw [if_neg hother] at hheld
      exact h.slot_bits other held hheld

theorem wellFormed_setStackPointer (machine : Machine) (address : Word)
    (h : machine.WellFormed) : (machine.setStackPointer address).WellFormed :=
  wellFormed_assign machine _ _ h (Value.fits_constant address _)

theorem wellFormed_writeRegister (machine : Machine) (register : Register) (value : Value)
    (h : machine.WellFormed) (hvalue : value.Fits) :
    (machine.writeRegister register value).state.WellFormed := by
  rw [writeRegister_state]
  by_cases hbits : value.bits = register.bits
  · rw [if_pos hbits]
    exact wellFormed_assign machine _ _ h hvalue
  · rw [if_neg hbits]
    exact h

theorem wellFormed_writeStack (machine : Machine) (offset : Offset) (value : Value)
    (h : machine.WellFormed) (hvalue : value.Fits) :
    (machine.writeStack offset value).state.WellFormed := by
  refine Outcome.state_of_atomic _ _ machine h (machine.writeStack_atomic offset value) ?_
  intro _ after hdone
  rcases (writeStack_eq_done_iff machine after offset value).mp hdone with
    ⟨hbits, address, _, hafter⟩
  rw [hafter]
  exact wellFormed_store machine address value h hvalue hbits

theorem wellFormed_push (machine : Machine) (value : Value) (h : machine.WellFormed)
    (hvalue : value.Fits) : (machine.push value).state.WellFormed := by
  refine Outcome.state_of_atomic _ _ machine h (machine.push_atomic value) ?_
  intro _ after hdone
  rcases (push_eq_done_iff machine after value).mp hdone with
    ⟨hbits, sp, lower, _, _, hafter⟩
  rw [hafter]
  exact wellFormed_setStackPointer _ lower (wellFormed_store machine lower value h hvalue hbits)

theorem wellFormed_pop (machine : Machine) (h : machine.WellFormed) :
    machine.pop.state.WellFormed := by
  refine Outcome.state_of_atomic _ _ machine h machine.pop_atomic ?_
  intro value after hdone
  rcases (pop_eq_done_iff machine after value).mp hdone with ⟨sp, upper, _, _, _, hafter⟩
  rw [hafter]
  exact wellFormed_setStackPointer machine upper h

/-- Every reachable machine is well-formed, by induction along the accesses
    that led to it. -/
theorem reachable_wellFormed (machine : Machine) (h : machine.Reachable) :
    machine.WellFormed := by
  induction h with
  | new arch => exact wellFormed_new arch
  | withStackPointer arch address =>
      exact wellFormed_setStackPointer _ address (wellFormed_new arch)
  | writeRegister machine register value _ hvalue ih =>
      exact wellFormed_writeRegister machine register value ih hvalue
  | writeStack machine offset value _ hvalue ih =>
      exact wellFormed_writeStack machine offset value ih hvalue
  | push machine value _ hvalue ih => exact wellFormed_push machine value ih hvalue
  | pop machine _ ih => exact wellFormed_pop machine ih

/-- A property of well-formed machines that no access ends, as long as the value
    that is written fits. -/
structure Invariant (P : Machine → Prop) : Prop where
  wellFormed : ∀ machine, P machine → machine.WellFormed
  writeRegister : ∀ machine (register : Register) (value : Value), P machine → value.Fits →
    P (machine.writeRegister register value).state
  writeStack : ∀ machine (offset : Offset) (value : Value), P machine → value.Fits →
    P (machine.writeStack offset value).state
  push : ∀ machine (value : Value), P machine → value.Fits → P (machine.push value).state
  pop : ∀ machine, P machine → P machine.pop.state

theorem invariant_reachable : Invariant Reachable where
  wellFormed := reachable_wellFormed
  writeRegister := Reachable.writeRegister
  writeStack := Reachable.writeStack
  push := Reachable.push
  pop := Reachable.pop

theorem invariant_wellFormed (arch : Architecture) :
    Invariant fun machine => machine.WellFormed ∧ machine.architecture = arch where
  wellFormed _ h := h.1
  writeRegister machine register value h hvalue :=
    ⟨wellFormed_writeRegister machine register value h.1 hvalue,
      (architecture_writeRegister machine register value).trans h.2⟩
  writeStack machine offset value h hvalue :=
    ⟨wellFormed_writeStack machine offset value h.1 hvalue,
      (architecture_writeStack machine offset value).trans h.2⟩
  push machine value h hvalue :=
    ⟨wellFormed_push machine value h.1 hvalue, (architecture_push machine value).trans h.2⟩
  pop machine h := ⟨wellFormed_pop machine h.1, (architecture_pop machine).trans h.2⟩

/-- A register of a well-formed machine reads as a value that fits. -/
theorem readRegister_fits (machine : Machine) (register : Register) (value : Value)
    (h : machine.WellFormed) (hread : machine.readRegister register = .ok value) :
    value.Fits :=
  h.register_fits register.offset value (readRegister_eq_ok_iff.mp hread).1

/-- The stack pointer is an address that its register can hold. -/
theorem readStackPointer_lt (machine : Machine) (sp : Word) (h : machine.WellFormed)
    (hsp : machine.readStackPointer = .ok sp) : sp.toNat < 2 ^ machine.architecture.bits :=
  h.register_fits _ _ ((readStackPointer_eq_ok_iff machine sp).mp hsp)

/-- What is popped has pointer width and fits. -/
theorem pop_fits (machine after : Machine) (value : Value) (h : machine.WellFormed)
    (hpop : machine.pop = .done value after) :
    value.Fits ∧ value.bits = machine.architecture.bits := by
  rcases (pop_eq_done_iff machine after value).mp hpop with ⟨sp, upper, _, hslot, _, _⟩
  exact ⟨h.slot_fits sp value hslot, h.slot_bits sp value hslot⟩

end Machine

end CallSummary
