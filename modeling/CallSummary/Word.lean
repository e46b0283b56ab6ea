/-!
# Guest Words and Stack Offsets

Addresses and the contents of values are unsigned 64-bit words, distances on the
stack are signed 64-bit offsets. Arithmetic on both is done exactly, in `Int`,
and comes back to a fixed width only through the two partial conversions of this
module: a result that does not fit is `none` and never a wrapped word. The upper
bounds are compared as natural numbers, since a comparison of integers with so
large a numeral is one that evaluation would count down.

## Main definitions

* `Word.ofInt?`: The word with the given exact value.
* `Offset.ofInt?`: The offset with the given exact value.

## Theorems

* `Word.ofInt?_eq_some_iff`, `Offset.ofInt?_eq_some_iff`: A conversion keeps the
  value.
* `Word.ofInt?_eq_none_iff`, `Offset.ofInt?_eq_none_iff`: It fails only outside
  the range.
-/

namespace CallSummary

/-- An unsigned 64-bit word: an address, or the contents of a concrete value. -/
abbrev Word := UInt64

/-- A signed 64-bit distance on the stack. -/
abbrev Offset := Int64

namespace Word

/-- The word whose exact value is `n`, if there is one. -/
def ofInt? (n : Int) : Option Word :=
  if 0 ≤ n ∧ n.toNat < 0x10000000000000000 then some (UInt64.ofNat n.toNat) else none

theorem ofInt?_eq_some_iff {n : Int} {w : Word} : ofInt? n = some w ↔ (w.toNat : Int) = n := by
  have hw := w.toNat_lt
  unfold ofInt?
  constructor
  · intro h
    split at h
    next hn =>
      obtain rfl := Option.some.inj h
      rw [UInt64.toNat_ofNat_of_lt' (by simp only [UInt64.size]; omega)]
      omega
    next => simp at h
  · intro h
    rw [if_pos (by omega), Option.some.injEq, ← UInt64.toNat_inj,
      UInt64.toNat_ofNat_of_lt' (by simp only [UInt64.size]; omega)]
    omega

theorem ofInt?_eq_none_iff {n : Int} : ofInt? n = none ↔ n < 0 ∨ 0x10000000000000000 ≤ n := by
  unfold ofInt?
  split <;> simp <;> omega

end Word

namespace Offset

/-- The offset whose exact value is `n`, if there is one. -/
def ofInt? (n : Int) : Option Offset :=
  if -0x8000000000000000 ≤ n ∧ n.toNat < 0x8000000000000000 then some (Int64.ofInt n) else none

theorem ofInt?_eq_some_iff {n : Int} {o : Offset} : ofInt? n = some o ↔ o.toInt = n := by
  have hlo := o.le_toInt
  have hhi := o.toInt_lt
  unfold ofInt?
  constructor
  · intro h
    split at h
    next hn =>
      obtain rfl := Option.some.inj h
      exact Int64.toInt_ofInt_of_le (by omega) (by omega)
    next => simp at h
  · intro h
    rw [if_pos (by omega), Option.some.injEq, ← Int64.toInt_inj,
      Int64.toInt_ofInt_of_le (by omega) (by omega), h]

theorem ofInt?_eq_none_iff {n : Int} :
    ofInt? n = none ↔ n < -0x8000000000000000 ∨ 0x8000000000000000 ≤ n := by
  unfold ofInt?
  split <;> simp <;> omega

end Offset

end CallSummary
