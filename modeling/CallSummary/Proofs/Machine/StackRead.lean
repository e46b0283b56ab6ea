import CallSummary.Proofs.Machine.Access

/-!
# Reading the Stack

What a read of the stack comes to in every case, and what it looks at.

A read goes through two questions. Where the stack points is asked of one
register, which may hold nothing, a value of another width, or a symbol.
Where the slot is follows by exact arithmetic, and a slot that is no place of
the address space is refused before the stack is looked at.
`StackPointerRead` and `SlotRead` put this down as rules, one for each way to
come to an answer, with errors that name what was missing.

Every rule names all it looks at: the register of the stack pointer, and at
most one slot. Machines that agree on these therefore answer alike, and the
proof of that is a walk through the rules.

## Main definitions

* `StackPointerRead`: What reading the stack pointer comes to.
* `SlotRead`: What reading the slot at an offset comes to.
* `AgreeBelow`: Two machines agree on what a read at an offset looks at.

## Theorems

* `below?_eq_none_iff`: When there is no address at an offset.
* `readStackPointer_eq_iff`, `readStack_eq_iff`: A read comes to what the rules
  say, and to nothing else.
* `readStack_congr`: Machines that agree on what is looked at answer alike.
-/

namespace CallSummary

namespace Machine

/-- What is held where the stack pointer is. -/
def heldStackPointer (machine : Machine) : Option Value :=
  machine.registers[machine.architecture.stackPointer.offset]?

/-- What reading the stack pointer comes to. -/
inductive StackPointerRead (machine : Machine) : Except AccessError Word → Prop where
  | undefined (hheld : machine.heldStackPointer = none) :
      StackPointerRead machine (.error (.undefinedRegister machine.architecture.stackPointer))
  | mismatched (value : Value) (hheld : machine.heldStackPointer = some value)
      (hbits : value.bits ≠ machine.architecture.bits) :
      StackPointerRead machine (.error (.invalidArguments
        (.registerHolds machine.architecture.stackPointer value.bits)))
  | symbolic (name : String)
      (hheld : machine.heldStackPointer = some (.symbol name machine.architecture.bits)) :
      StackPointerRead machine
        (.error (.symbolicStackPointer (.symbol name machine.architecture.bits)))
  | known (sp : Word)
      (hheld : machine.heldStackPointer = some (.concrete sp machine.architecture.bits)) :
      StackPointerRead machine (.ok sp)

theorem exists_stackPointerRead (machine : Machine) :
    ∃ result, machine.StackPointerRead result := by
  cases hheld : machine.heldStackPointer with
  | none => exact ⟨_, .undefined hheld⟩
  | some value =>
      by_cases hbits : value.bits = machine.architecture.bits
      · cases value with
        | concrete sp bits => exact ⟨_, .known sp (hbits ▸ hheld)⟩
        | symbol name bits => exact ⟨_, .symbolic name (hbits ▸ hheld)⟩
      · exact ⟨_, .mismatched value hheld hbits⟩

theorem readStackPointer_of_read (machine : Machine) (result : Except AccessError Word)
    (h : machine.StackPointerRead result) : machine.readStackPointer = result := by
  cases h with
  | undefined hheld =>
      unfold heldStackPointer at hheld
      unfold readStackPointer readRegister
      rw [hheld]
      rfl
  | mismatched value hheld hbits =>
      unfold heldStackPointer at hheld
      rw [← Architecture.bits_stackPointer] at hbits
      unfold readStackPointer readRegister
      simp only [hheld, if_neg hbits]
      rfl
  | symbolic name hheld =>
      have hregister : machine.readRegister machine.architecture.stackPointer =
          .ok (.symbol name machine.architecture.bits) :=
        readRegister_eq_ok_iff.mpr ⟨hheld, (Architecture.bits_stackPointer _).symm⟩
      unfold readStackPointer
      rw [hregister]
      rfl
  | known sp hheld => exact (machine.readStackPointer_eq_ok_iff sp).mpr hheld

/-- The rules for the stack pointer give the answer of the read and no other. -/
theorem readStackPointer_eq_iff (machine : Machine) (result : Except AccessError Word) :
    machine.readStackPointer = result ↔ machine.StackPointerRead result := by
  constructor
  · rintro rfl
    rcases machine.exists_stackPointerRead with ⟨result, h⟩
    rw [machine.readStackPointer_of_read result h]
    exact h
  · exact machine.readStackPointer_of_read result

theorem below?_eq_none_iff (address : Word) (offset : Offset) :
    below? address offset = none ↔ offset.toInt = -2 ^ 63 ∨
      (address.toNat : Int) - offset.toInt < 0 ∨ 2 ^ 64 ≤ (address.toNat : Int) - offset.toInt := by
  rw [Option.eq_none_iff_forall_ne_some]
  simp only [ne_eq, below?_eq_some_iff]
  constructor
  · intro h
    -- Inside of all three bounds the exact address is a word, and is found.
    refine Decidable.byContradiction fun hrange => ?_
    rcases Word.exists_toNat_eq ((address.toNat : Int) - offset.toInt).toNat (by omega) with
      ⟨below, hbelow⟩
    exact h below ⟨by omega, by omega⟩
  · rintro h below ⟨hbelow, hmin⟩
    have hlt := below.toNat_lt
    omega

/-- What reading the slot at an offset comes to. -/
inductive SlotRead (machine : Machine) (offset : Offset) : Except AccessError Value → Prop where
  | noPointer (cause : AccessError) (hsp : machine.StackPointerRead (.error cause)) :
      SlotRead machine offset (.error cause)
  | outside (sp : Word) (hsp : machine.StackPointerRead (.ok sp))
      (hoffset : offset.toInt = -2 ^ 63 ∨ (sp.toNat : Int) - offset.toInt < 0 ∨
        2 ^ 64 ≤ (sp.toNat : Int) - offset.toInt) :
      SlotRead machine offset (.error (.invalidArguments (.offsetOverflow offset sp)))
  | undefined (sp address : Word) (hsp : machine.StackPointerRead (.ok sp))
      (haddress : (address.toNat : Int) = sp.toNat - offset.toInt)
      (hmin : offset.toInt ≠ -2 ^ 63) (hslot : machine.stack[address]? = none) :
      SlotRead machine offset (.error (.undefinedStack address))
  | defined (sp address : Word) (value : Value) (hsp : machine.StackPointerRead (.ok sp))
      (haddress : (address.toNat : Int) = sp.toNat - offset.toInt)
      (hmin : offset.toInt ≠ -2 ^ 63) (hslot : machine.stack[address]? = some value) :
      SlotRead machine offset (.ok value)

theorem exists_slotRead (machine : Machine) (offset : Offset) :
    ∃ result, machine.SlotRead offset result := by
  rcases machine.exists_stackPointerRead with ⟨cause | sp, hsp⟩
  · exact ⟨_, .noPointer cause hsp⟩
  · cases hbelow : below? sp offset with
    | none => exact ⟨_, .outside sp hsp ((below?_eq_none_iff sp offset).mp hbelow)⟩
    | some address =>
        rcases below?_eq_some_iff.mp hbelow with ⟨haddress, hmin⟩
        cases hslot : machine.stack[address]? with
        | none => exact ⟨_, .undefined sp address hsp haddress hmin hslot⟩
        | some value => exact ⟨_, .defined sp address value hsp haddress hmin hslot⟩

theorem readStack_of_slotRead (machine : Machine) (offset : Offset)
    (result : Except AccessError Value) (h : machine.SlotRead offset result) :
    machine.readStack offset = result := by
  cases h with
  | noPointer cause hsp =>
      unfold readStack stackAddress
      rw [machine.readStackPointer_of_read _ hsp]
      rfl
  | outside sp hsp hoffset =>
      unfold readStack stackAddress
      rw [machine.readStackPointer_of_read _ hsp]
      simp only [bind, Except.bind, (below?_eq_none_iff sp offset).mpr hoffset]
  | undefined sp address hsp haddress hmin hslot =>
      have hread := machine.readStackPointer_of_read _ hsp
      unfold readStack
      rw [stackAddress_eq_ok_iff.mpr ⟨sp, hread, haddress, hmin⟩]
      simp only [bind, Except.bind, hslot]
  | defined sp address value hsp haddress hmin hslot =>
      exact machine.readStack_of_address sp address offset value
        (machine.readStackPointer_of_read _ hsp) haddress hmin hslot

/-- The rules for slots give the answer of the read and no other. -/
theorem readStack_eq_iff (machine : Machine) (offset : Offset)
    (result : Except AccessError Value) :
    machine.readStack offset = result ↔ machine.SlotRead offset result := by
  constructor
  · rintro rfl
    rcases machine.exists_slotRead offset with ⟨result, h⟩
    rw [machine.readStack_of_slotRead offset result h]
    exact h
  · exact machine.readStack_of_slotRead offset result

/-! ### What a read looks at -/

/-- The two machines are of one architecture and agree on the register of the
    stack pointer, and on the one slot that the offset leads to from there. -/
structure AgreeBelow (machine other : Machine) (offset : Offset) : Prop where
  architecture : machine.architecture = other.architecture
  stackPointer : machine.heldStackPointer = other.heldStackPointer
  slot : ∀ sp address : Word, machine.readStackPointer = .ok sp →
    (address.toNat : Int) = sp.toNat - offset.toInt →
      machine.stack[address]? = other.stack[address]?

theorem AgreeBelow.stackPointerRead {machine other : Machine} {offset : Offset}
    (h : machine.AgreeBelow other offset) (result : Except AccessError Word)
    (hread : machine.StackPointerRead result) : other.StackPointerRead result := by
  rcases h with ⟨harch, hsp, _⟩
  cases hread with
  | undefined hheld =>
      rw [harch]
      exact .undefined (hsp ▸ hheld)
  | mismatched value hheld hbits =>
      rw [harch] at hbits ⊢
      exact .mismatched value (hsp ▸ hheld) hbits
  | symbolic name hheld =>
      rw [hsp, harch] at hheld
      rw [harch]
      exact .symbolic name hheld
  | known sp hheld =>
      rw [hsp, harch] at hheld
      exact .known sp hheld

theorem AgreeBelow.slotRead {machine other : Machine} {offset : Offset}
    (h : machine.AgreeBelow other offset) (result : Except AccessError Value)
    (hread : machine.SlotRead offset result) : other.SlotRead offset result := by
  -- The last two rules look at the stack, and only where the agreement is.
  cases hread with
  | noPointer cause hsp => exact .noPointer cause (h.stackPointerRead _ hsp)
  | outside sp hsp hoffset => exact .outside sp (h.stackPointerRead _ hsp) hoffset
  | undefined sp address hsp haddress hmin hslot =>
      rw [h.slot sp address (machine.readStackPointer_of_read _ hsp) haddress] at hslot
      exact .undefined sp address (h.stackPointerRead _ hsp) haddress hmin hslot
  | defined sp address value hsp haddress hmin hslot =>
      rw [h.slot sp address (machine.readStackPointer_of_read _ hsp) haddress] at hslot
      exact .defined sp address value (h.stackPointerRead _ hsp) haddress hmin hslot

/-- Machines that agree on what is looked at answer alike. -/
theorem readStack_congr (machine other : Machine) (offset : Offset)
    (h : machine.AgreeBelow other offset) : machine.readStack offset = other.readStack offset := by
  have hread := (machine.readStack_eq_iff offset _).mp rfl
  exact ((other.readStack_eq_iff offset _).mpr (h.slotRead _ hread)).symm

end Machine

end CallSummary
