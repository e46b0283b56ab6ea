import CallSummary.Convention.Builtin
import Mathlib.Algebra.Group.Int.Defs
import Mathlib.Algebra.Group.Nat.Defs

/-!
# Locations of Arguments

When the offset of a stack argument can be computed, and what it then is.

An offset is formed in three steps, each of which has to fit a signed word:
the number of the slot, the skipped slots added to it, and the product with
the stride. The steps are exact where they succeed, so the offset is the
exact product.

Each of the steps can give up on its own, and then there is no location even
if the product would have fitted. That takes a stride of one or none, which
lets the product be as small as the sum, or a negative number of skipped
slots, which brings the sum back from a slot number that is too large.
Otherwise the sum is at least the slot number and the product at least twice
the sum, up to its sign. A product that fits then leaves room for the other
two (`stepsFit_of_inRange`), and there is no location only where the product
has no offset.

## Main definitions

* `Offset.InRange`: A number that an offset can be.
* `Placement.exactOffset`: The offset of an argument in exact arithmetic.
* `Placement.StepsFit`: The two steps before the product fit.

## Theorems

* `stackOffset?_eq_some_iff`: The three conditions, and the exact offset.
* `stackOffset?_exists`: The offset exists when all three steps fit.
* `location_upward`: The location of a stack argument in a stack that grows
  down.
* `location_eq_some_iff`, `location_eq_none_iff`: When a stack argument has a
  location, and when it has none.
* `location_cases`, `mem_of_location`, `toInt_of_location`: The two kinds of
  location an argument can have.
* `exactOffset_sub`, `exactOffset_injective`: How far apart two exact offsets
  are, and that they are.
* `stepsFit_of_inRange`: Where the product fits, so do the steps before it.
* `location_exact`: Offsets are exact, and missing only if they must be.
-/

namespace CallSummary

/-- The number is one that an offset can be. -/
def Offset.InRange (n : Int) : Prop :=
  -2 ^ 63 ≤ n ∧ n < 2 ^ 63

theorem Offset.inRange_iff (n : Int) : InRange n ↔ ∃ offset : Offset, offset.toInt = n := by
  constructor
  · rintro ⟨hlo, hhi⟩
    exact ⟨.ofInt n, Int64.toInt_ofInt_of_le (by omega) (by omega)⟩
  · rintro ⟨offset, rfl⟩
    exact ⟨offset.le_toInt, offset.toInt_lt⟩

namespace Placement

theorem stackOffset?_eq_some_iff (placement : Placement) (n : Nat) (offset : Offset) :
    placement.stackOffset? n = some offset ↔
      (n : Int) < 2 ^ 63 ∧
        (-2 ^ 63 ≤ n + placement.skip.toInt ∧ n + placement.skip.toInt < 2 ^ 63) ∧
        offset.toInt = (n + placement.skip.toInt) * placement.stride.toInt := by
  have hcompute : placement.stackOffset? n = (Offset.ofInt? n).bind fun slot =>
      (Offset.ofInt? (slot.toInt + placement.skip.toInt)).bind fun shifted =>
        Offset.ofInt? (shifted.toInt * placement.stride.toInt) := rfl
  rw [hcompute]
  cases hslot : Offset.ofInt? n with
  | none =>
      rw [Offset.ofInt?_eq_none_iff] at hslot
      simp only [Option.bind_none, reduceCtorEq, false_iff]
      rintro ⟨hn, _⟩
      omega
  | some slot =>
      rw [Offset.ofInt?_eq_some_iff] at hslot
      have hslotlt := slot.toInt_lt
      rw [Option.bind_some, hslot]
      cases hshifted : Offset.ofInt? (n + placement.skip.toInt) with
      | none =>
          rw [Offset.ofInt?_eq_none_iff] at hshifted
          simp only [Option.bind_none, reduceCtorEq, false_iff]
          rintro ⟨_, hrange, _⟩
          omega
      | some shifted =>
          rw [Offset.ofInt?_eq_some_iff] at hshifted
          have hlo := shifted.le_toInt
          have hhi := shifted.toInt_lt
          rw [Option.bind_some, hshifted, Offset.ofInt?_eq_some_iff]
          constructor
          · intro h
            exact ⟨by omega, ⟨by omega, by omega⟩, h⟩
          · rintro ⟨_, _, h⟩
            exact h

theorem stackOffset?_exists (placement : Placement) (n : Nat)
    (hn : (n : Int) < 2 ^ 63)
    (hshifted : -2 ^ 63 ≤ n + placement.skip.toInt ∧ n + placement.skip.toInt < 2 ^ 63)
    (hproduct : -2 ^ 63 ≤ (n + placement.skip.toInt) * placement.stride.toInt ∧
      (n + placement.skip.toInt) * placement.stride.toInt < 2 ^ 63) :
    ∃ offset, placement.stackOffset? n = some offset ∧
      offset.toInt = (n + placement.skip.toInt) * placement.stride.toInt := by
  cases hoffset : Offset.ofInt? ((n + placement.skip.toInt) * placement.stride.toInt) with
  | none =>
      rw [Offset.ofInt?_eq_none_iff] at hoffset
      omega
  | some offset =>
      have hexact := Offset.ofInt?_eq_some_iff.mp hoffset
      exact ⟨offset, (stackOffset?_eq_some_iff placement n offset).mpr ⟨hn, hshifted, hexact⟩,
        hexact⟩

/-- Where the slots of arguments follow each other upwards, the argument of
    some rank above the stack pointer is at the negated size of the slots below
    it. -/
theorem location_upward (placement : Placement) (size index rank : Nat) (hsize : 0 < size)
    (hstride : placement.stride.toInt = -(size : Int))
    (hindex : placement.registers.length ≤ index)
    (hrank : (rank : Int) =
      (index - placement.registers.length : Nat) + placement.skip.toInt)
    (hslot : index - placement.registers.length ≤ rank) (hbound : size * rank < 2 ^ 63) :
    ∃ offset : Offset, placement.location index = some (.stack offset) ∧
      offset.toInt = -((size * rank : Nat) : Int) := by
  have hle : rank ≤ size * rank := Nat.le_mul_of_pos_left rank hsize
  have hproduct : (rank : Int) * placement.stride.toInt = -((size * rank : Nat) : Int) := by
    rw [hstride, Int.mul_neg, Int.mul_comm, Int.natCast_mul]
  rcases placement.stackOffset?_exists (index - placement.registers.length) (by omega)
    (by omega) (by rw [← hrank, hproduct]; omega) with ⟨offset, hoffset, hexact⟩
  rw [← hrank, hproduct] at hexact
  refine ⟨offset, ?_, hexact⟩
  rw [location_of_ge hindex, hoffset]
  rfl

/-! ### Exact offsets -/

/-- The offset of the argument of an index in exact arithmetic, be it one that
    fits or not. -/
def exactOffset (placement : Placement) (index : Nat) : Int :=
  placement.stride.toInt *
    ((index : Int) - placement.registers.length + placement.skip.toInt)

/-- The steps before the product fit: the number of the slot, and the skipped
    slots added to it. -/
def StepsFit (placement : Placement) (index : Nat) : Prop :=
  (index : Int) - placement.registers.length < 2 ^ 63 ∧
    Offset.InRange ((index : Int) - placement.registers.length + placement.skip.toInt)

variable (placement : Placement) (index : Nat)

theorem location_eq_some_iff (location : Location) (h : placement.registers.length ≤ index) :
    placement.location index = some location ↔
      placement.StepsFit index ∧
        ∃ offset : Offset, location = .stack offset ∧
          offset.toInt = placement.exactOffset index := by
  have hslot : ((index - placement.registers.length : Nat) : Int) =
      (index : Int) - placement.registers.length := Int.ofNat_sub h
  simp only [location_of_ge h, Option.map_eq_some_iff, stackOffset?_eq_some_iff, hslot]
  unfold StepsFit Offset.InRange exactOffset
  rw [Int.mul_comm placement.stride.toInt]
  constructor
  · rintro ⟨offset, ⟨hslotlt, hshifted, hexact⟩, rfl⟩
    exact ⟨⟨hslotlt, hshifted⟩, offset, rfl, hexact⟩
  · rintro ⟨⟨hslotlt, hshifted⟩, offset, rfl, hexact⟩
    exact ⟨offset, ⟨hslotlt, hshifted, hexact⟩, rfl⟩

/-- A stack argument has no location if one of the three steps does not fit,
    and only then. -/
theorem location_eq_none_iff (h : placement.registers.length ≤ index) :
    placement.location index = none ↔
      ¬ (placement.StepsFit index ∧ Offset.InRange (placement.exactOffset index)) := by
  rw [Offset.inRange_iff, Option.eq_none_iff_forall_ne_some]
  constructor
  · rintro hnone ⟨hsteps, offset, hexact⟩
    exact hnone (.stack offset)
      ((placement.location_eq_some_iff index _ h).mpr ⟨hsteps, offset, rfl, hexact⟩)
  · intro hfits location hsome
    rcases (placement.location_eq_some_iff index location h).mp hsome with
      ⟨hsteps, offset, _, hexact⟩
    exact hfits ⟨hsteps, offset, hexact⟩

/-- A location is a register of the list, or an offset that is the exact one. -/
theorem location_cases (location : Location) (h : placement.location index = some location) :
    (∃ hindex : index < placement.registers.length,
      location = .register placement.registers[index]) ∨
      placement.registers.length ≤ index ∧
        ∃ offset : Offset, location = .stack offset ∧
          offset.toInt = placement.exactOffset index := by
  by_cases hindex : index < placement.registers.length
  · rw [location_of_lt hindex, Option.some.injEq] at h
    exact .inl ⟨hindex, h.symm⟩
  · have hge := Nat.le_of_not_lt hindex
    exact .inr ⟨hge, ((placement.location_eq_some_iff index location hge).mp h).2⟩

theorem mem_of_location (register : Register)
    (h : placement.location index = some (.register register)) :
    register ∈ placement.registers := by
  rcases placement.location_cases index _ h with ⟨_, hsame⟩ | ⟨_, _, hsame, _⟩
  · rw [Location.register.injEq] at hsame
    exact hsame ▸ List.getElem_mem _
  · cases hsame

theorem toInt_of_location (offset : Offset)
    (h : placement.location index = some (.stack offset)) :
    placement.registers.length ≤ index ∧ offset.toInt = placement.exactOffset index := by
  rcases placement.location_cases index _ h with ⟨_, hsame⟩ | ⟨hge, found, hsame, hexact⟩
  · cases hsame
  · rw [Location.stack.injEq] at hsame
    exact ⟨hge, hsame ▸ hexact⟩

/-- Exact offsets are as far apart as the indices are, counted in strides. -/
theorem exactOffset_sub (i j : Nat) :
    placement.exactOffset i - placement.exactOffset j =
      placement.stride.toInt * ((i : Int) - j) := by
  unfold exactOffset
  rw [← Int.mul_sub]
  congr 1
  omega

/-- Different indices have different exact offsets, if there is a stride. -/
theorem exactOffset_injective (hstride : placement.stride ≠ 0) :
    Function.Injective placement.exactOffset := by
  intro i j hsame
  have hdistance := placement.exactOffset_sub i j
  rw [hsame, Int.sub_self] at hdistance
  rcases Int.mul_eq_zero.mp hdistance.symm with hzero | hsub
  · exact absurd (Int64.toInt_inj.mp hzero) hstride
  · omega

-- An argument without a location, although its exact offset is the largest one.
example : (mk [] (-1) 1).exactOffset (2 ^ 63) = 2 ^ 63 - 1 ∧
    (mk [] (-1) 1).location (2 ^ 63) = none := by
  decide

-- Twice the rank is no larger than the product, whatever the sign of the stride.
theorem two_mul_le_natAbs (stride rank : Int) (hstride : 2 ≤ stride.natAbs) :
    2 * rank.natAbs ≤ (stride * rank).natAbs := by
  rw [Int.natAbs_mul]
  exact Nat.mul_le_mul_right rank.natAbs hstride

/-- A product that fits is at least twice the sum it is made from, so the sum
    fits, and the slot number is no larger than the sum. -/
theorem stepsFit_of_inRange (hskip : 0 ≤ placement.skip.toInt)
    (hstride : 2 ≤ placement.stride.toInt.natAbs) (h : placement.registers.length ≤ index)
    (hrange : Offset.InRange (placement.exactOffset index)) : placement.StepsFit index := by
  have hdouble := two_mul_le_natAbs placement.stride.toInt
    ((index : Int) - placement.registers.length + placement.skip.toInt) hstride
  unfold exactOffset Offset.InRange at hrange
  unfold StepsFit Offset.InRange
  omega

/-- The built-in placements skip no negative number of slots, and their
    arguments are more than one byte apart. -/
theorem skip_stride_builtin (arch : Architecture) (convention : CallingConvention)
    (hplacement : Registry.builtin.placement? arch convention = some placement) :
    0 ≤ placement.skip.toInt ∧ 2 ≤ placement.stride.toInt.natAbs :=
  Registry.of_rows_builtin
    (fun _ placement => 0 ≤ placement.skip.toInt ∧ 2 ≤ placement.stride.toInt.natAbs)
    (by decide) hplacement

/-- The offset of a stack argument is the exact one, and an argument whose
    exact offset does not fit has no location. Where the skipped slots are not
    negative and the arguments not closer than two, as in every built-in
    placement, that is the only reason to have none. -/
theorem location_exact :
    (∀ (placement : Placement) (index : Nat), placement.registers.length ≤ index →
      (∀ location, placement.location index = some location →
        ∃ offset : Offset, location = .stack offset ∧
          offset.toInt = placement.exactOffset index) ∧
      (¬ Offset.InRange (placement.exactOffset index) → placement.location index = none) ∧
      (0 ≤ placement.skip.toInt → 2 ≤ placement.stride.toInt.natAbs →
        Offset.InRange (placement.exactOffset index) →
          ∃ offset : Offset, placement.location index = some (.stack offset) ∧
            offset.toInt = placement.exactOffset index)) ∧
      ∀ (arch : Architecture) (convention : CallingConvention) (placement : Placement),
        Registry.builtin.placement? arch convention = some placement →
          0 ≤ placement.skip.toInt ∧ 2 ≤ placement.stride.toInt.natAbs := by
  refine ⟨?_, fun arch convention placement => placement.skip_stride_builtin arch convention⟩
  intro placement index h
  refine ⟨?_, ?_, ?_⟩
  · intro location hsome
    exact ((placement.location_eq_some_iff index location h).mp hsome).2
  · intro hrange
    exact (placement.location_eq_none_iff index h).mpr fun hfits => hrange hfits.2
  · intro hskip hstride hrange
    have hsteps := placement.stepsFit_of_inRange index hskip hstride h hrange
    rcases (Offset.inRange_iff _).mp hrange with ⟨offset, hexact⟩
    exact ⟨offset, (placement.location_eq_some_iff index _ h).mpr ⟨hsteps, offset, rfl, hexact⟩,
      hexact⟩

/-- The last index of a downward stack whose offset fits, with the lowest
    offset there is, and the index after it. -/
theorem location_exact_lowest :
    (∃ offset : Offset, (mk [] 1 (-8)).location (2 ^ 60 - 1) = some (.stack offset) ∧
        offset.toInt = -2 ^ 63) ∧
      (mk [] 1 (-8)).location (2 ^ 60) = none ∧
      2 ≤ (-8 : Offset).toInt.natAbs := by
  have hlowest : (mk [] 1 (-8)).exactOffset (2 ^ 60 - 1) = -2 ^ 63 := by decide
  have hbelow : (mk [] 1 (-8)).exactOffset (2 ^ 60) = -2 ^ 63 - 8 := by decide
  have hbuiltin := location_exact.2 .amd64 .systemV _ rfl
  refine ⟨?_, ?_, hbuiltin.2⟩
  · rw [← hlowest]
    refine (location_exact.1 (mk [] 1 (-8)) (2 ^ 60 - 1) (Nat.zero_le _)).2.2 (by decide)
      (by decide) ?_
    rw [hlowest]
    exact ⟨by decide, by decide⟩
  · refine (location_exact.1 (mk [] 1 (-8)) (2 ^ 60) (Nat.zero_le _)).2.1 ?_
    rw [hbelow]
    exact fun hrange => absurd hrange.1 (by decide)

end Placement

end CallSummary
