import CallSummary.Text.Hex
import Mathlib.Data.Nat.Digits.Lemmas

/-!
# Numerals

What a row of digits denotes, and that it is the only row to do so.

A row is read without a look at how rows are written: each character stands
for a number by its place in the alphabet, and the row for the sum of these
numbers, each weighted with its power of the base. A character that is no
lower-case digit of the base makes the row denote nothing.

Without a further rule a number has many rows, since zeros may stand in front.
Two rules leave one of them. If the width of the row is fixed, the zeros in
front are those that fill it up, and every number that is small enough has
exactly one row (`value?_fixed_iff`). If no zero may stand in front, every
positive number has exactly one row, which is as short as it can be
(`value?_plain_iff`). In both cases it is the row that is written. Either way
the question comes down to lists of places, with the least significant one
first, and to what is known of them: of a list without a zero at its end, and
of a list filled up with zeros.

## Main definitions

* `lowerCase?`, `digit?`: The number a character stands for.
* `places?`, `value?`: The numbers of a row, and the number it denotes.
* `ofPlaces`: The row for a list of places.

## Theorems

* `places?_eq_some_iff`: A row is read as the places it was written for.
* `toDigits_eq_ofPlaces`, `leftpad_toDigits`: The places of a written row.
* `value?_fixed_iff`: The one row of a given width.
* `value?_plain_iff`: The one row with no zero in front.
* `not_mem_of_value?`: A row that denotes something has only digits in it.
-/

namespace CallSummary.Numeral

/-- The number that a lower-case digit stands for, whatever the base. -/
def lowerCase? (c : Char) : Option Nat :=
  if '0'.toNat ≤ c.toNat ∧ c.toNat ≤ '9'.toNat then some (c.toNat - '0'.toNat)
  else if 'a'.toNat ≤ c.toNat ∧ c.toNat ≤ 'f'.toNat then some (10 + (c.toNat - 'a'.toNat))
  else none

/-- The number that a digit of the base stands for. -/
def digit? (base : Nat) (c : Char) : Option Nat :=
  (lowerCase? c).filter (· < base)

/-- The numbers that the digits of a row stand for, the last digit first. -/
def places? (base : Nat) (row : List Char) : Option (List Nat) :=
  row.reverse.mapM (digit? base)

/-- The number that a row of digits denotes, the first digit being the most
    significant one. -/
def value? (base : Nat) (row : List Char) : Option Nat :=
  (places? base row).map (Nat.ofDigits base)

/-- The row of digits for the numbers, the last digit first. -/
def ofPlaces (places : List Nat) : List Char :=
  (places.map Nat.digitChar).reverse

theorem toNat_digitChar (d : Nat) (h : d < 16) :
    (Nat.digitChar d).toNat = if d < 10 then 48 + d else 87 + d := by
  revert d
  decide

theorem lowerCase?_eq_some_iff (c : Char) (d : Nat) :
    lowerCase? c = some d ↔ d < 16 ∧ c = Nat.digitChar d := by
  simp only [lowerCase?, Char.reduceToNat]
  constructor
  · intro h
    have hcode : d < 16 ∧ c.toNat = if d < 10 then 48 + d else 87 + d := by
      split at h
      · rw [Option.some.injEq] at h
        rw [if_pos (by omega)]
        omega
      · split at h
        · rw [Option.some.injEq] at h
          rw [if_neg (by omega)]
          omega
        · cases h
    refine ⟨hcode.1, Char.toNat_inj.mp ?_⟩
    rw [hcode.2, toNat_digitChar d hcode.1]
  · rintro ⟨hd, rfl⟩
    rw [toNat_digitChar d hd]
    by_cases hten : d < 10
    · rw [if_pos hten, if_pos (by omega), Nat.add_sub_cancel_left]
    · rw [if_neg hten, if_neg (by omega), if_pos (by omega), Option.some.injEq]
      omega

theorem digit?_eq_some_iff (base : Nat) (hbase : base ≤ 16) (c : Char) (d : Nat) :
    digit? base c = some d ↔ d < base ∧ c = Nat.digitChar d := by
  rw [digit?, Option.filter_eq_some_iff, lowerCase?_eq_some_iff, decide_eq_true_iff]
  constructor
  · rintro ⟨⟨_, hc⟩, hd⟩
    exact ⟨hd, hc⟩
  · rintro ⟨hd, hc⟩
    exact ⟨⟨by omega, hc⟩, hd⟩

/-- The characters are read one by one. -/
theorem mapM_digit?_eq_some_iff (base : Nat) (hbase : base ≤ 16) (row : List Char) :
    ∀ places, row.mapM (digit? base) = some places ↔
      (∀ d ∈ places, d < base) ∧ row = places.map Nat.digitChar := by
  induction row with
  | nil =>
      intro places
      cases places with
      | nil => simp only [List.mapM_nil, Option.pure_def, List.not_mem_nil, false_imp_iff,
          implies_true, List.map_nil, and_self]
      | cons d places => simp only [List.mapM_nil, Option.pure_def, Option.some.injEq,
          reduceCtorEq, List.map_cons, and_false]
  | cons c rest ih =>
      intro places
      simp only [List.mapM_cons, Option.bind_eq_bind, Option.bind_eq_some_iff, Option.pure_def,
        Option.some.injEq, digit?_eq_some_iff base hbase, ih]
      constructor
      · rintro ⟨d, ⟨hd, rfl⟩, places, ⟨hplaces, rfl⟩, rfl⟩
        exact ⟨List.forall_mem_cons.mpr ⟨hd, hplaces⟩, List.map_cons.symm⟩
      · rintro ⟨hplaces, hrow⟩
        cases places with
        | nil => cases hrow
        | cons d places =>
            rw [List.map_cons, List.cons.injEq] at hrow
            rw [List.forall_mem_cons] at hplaces
            exact ⟨d, ⟨hplaces.1, hrow.1⟩, places, ⟨hplaces.2, hrow.2⟩, rfl⟩

theorem places?_eq_some_iff (base : Nat) (hbase : base ≤ 16) (row : List Char)
    (places : List Nat) :
    places? base row = some places ↔ (∀ d ∈ places, d < base) ∧ row = ofPlaces places := by
  rw [places?, mapM_digit?_eq_some_iff base hbase, ofPlaces, List.reverse_eq_iff]

theorem value?_eq_some_iff (base : Nat) (hbase : base ≤ 16) (row : List Char) (n : Nat) :
    value? base row = some n ↔
      ∃ places, (∀ d ∈ places, d < base) ∧ row = ofPlaces places ∧
        Nat.ofDigits base places = n := by
  simp only [value?, Option.map_eq_some_iff, places?_eq_some_iff base hbase, and_assoc]

theorem length_ofPlaces (places : List Nat) : (ofPlaces places).length = places.length := by
  rw [ofPlaces, List.length_reverse, List.length_map]

/-- A row starts with a zero if its list of places ends in one. -/
theorem head?_ofPlaces_eq_zero_iff (places : List Nat) :
    (ofPlaces places).head? = some '0' ↔ places.getLast? = some 0 := by
  rw [ofPlaces, List.head?_reverse, List.getLast?_map, Option.map_eq_some_iff]
  simp only [Nat.digitChar_eq_zero, exists_eq_right]

/-- What is written has the places of the number. They are found from the least
    significant one on, as the digits are. -/
theorem toDigits_eq_ofPlaces (base : Nat) (hone : 1 < base) (n : Nat) (hn : 0 < n) :
    Nat.toDigits base n = ofPlaces (Nat.digits base n) := by
  induction n using Nat.strongRecOn with
  | ind n ih =>
      rw [Nat.toDigits_eq_if hone, Nat.digits_def' hone hn]
      by_cases hlt : n < base
      · rw [if_pos hlt, Nat.mod_eq_of_lt hlt, Nat.div_eq_of_lt hlt, Nat.digits_zero]
        rfl
      · have hpos : 0 < n / base := Nat.div_pos (by omega) (by omega)
        rw [if_neg hlt, ih (n / base) (Nat.div_lt_self hn hone) hpos]
        simp only [ofPlaces, List.map_cons, List.reverse_cons]

/-- Zeros in front of what is written are places behind those of the number. -/
theorem leftpad_toDigits (base : Nat) (hone : 1 < base) (width : Nat) (hwidth : 0 < width)
    (n : Nat) :
    (Nat.toDigits base n).leftpad width '0' = ofPlaces (Nat.digitsAppend base width n) := by
  rw [List.leftpad, Nat.digitsAppend]
  by_cases hn : n = 0
  -- Zero has no places, but is written as one digit, which is like those in front of it.
  · rw [hn, Nat.toDigits_zero, Nat.digits_zero, List.nil_append, List.length_nil,
      List.length_singleton, ← List.replicate_succ', ofPlaces, List.map_replicate,
      List.reverse_replicate, show width - 1 + 1 = width - 0 by omega]
    rfl
  · rw [toDigits_eq_ofPlaces base hone n (by omega), length_ofPlaces, ofPlaces, ofPlaces,
      List.map_append, List.reverse_append, List.map_replicate, List.reverse_replicate]
    rfl

/-- A number has one row of each width that is large enough for it: what is
    written of it, behind zeros. -/
theorem value?_fixed_iff (base : Nat) (hone : 1 < base) (hbase : base ≤ 16) (width : Nat)
    (hwidth : 0 < width) (row : List Char) (n : Nat) :
    row.length = width ∧ value? base row = some n ↔
      n < base ^ width ∧ row = (Nat.toDigits base n).leftpad width '0' := by
  have hinverse := Nat.setInvOn_digitsAppend_ofDigits hone width
  rw [leftpad_toDigits base hone width hwidth, value?_eq_some_iff base hbase]
  constructor
  · rintro ⟨hlength, places, hplaces, rfl, rfl⟩
    rw [length_ofPlaces] at hlength
    refine ⟨?_, ?_⟩
    · rw [← hlength]
      exact Nat.ofDigits_lt_base_pow_length hone hplaces
    · rw [hinverse.1 ⟨hlength, hplaces⟩]
  · rintro ⟨hlt, rfl⟩
    refine ⟨?_, Nat.digitsAppend base width n, ?_, rfl, hinverse.2 hlt⟩
    · rw [length_ofPlaces, Nat.length_digitsAppend hone width hlt]
    · exact fun d hd => Nat.lt_of_mem_digitsAppend hone width d hd

/-- A positive number has one row with no zero in front: what is written of
    it. -/
theorem value?_plain_iff (base : Nat) (hone : 1 < base) (hbase : base ≤ 16) (row : List Char)
    (n : Nat) (hn : 0 < n) :
    row.head? ≠ some '0' ∧ value? base row = some n ↔ row = Nat.toDigits base n := by
  rw [toDigits_eq_ofPlaces base hone n hn, value?_eq_some_iff base hbase]
  constructor
  · rintro ⟨hhead, places, hplaces, rfl, rfl⟩
    rw [Nat.digits_ofDigits base hone places hplaces]
    intro hne hlast
    refine hhead ((head?_ofPlaces_eq_zero_iff places).mpr ?_)
    rw [List.getLast?_eq_some_getLast hne, hlast]
  · rintro rfl
    refine ⟨?_, Nat.digits base n, fun d hd => Nat.digits_lt_base hone hd, rfl,
      Nat.ofDigits_digits base n⟩
    have hne : Nat.digits base n ≠ [] := Nat.digits_ne_nil_iff_ne_zero.mpr (by omega)
    rw [Ne, head?_ofPlaces_eq_zero_iff, List.getLast?_eq_some_getLast hne, Option.some.injEq]
    exact Nat.getLast_digit_ne_zero base (by omega)

/-- A row that denotes something has only digits in it. -/
theorem not_mem_of_value? (base : Nat) (hbase : base ≤ 16) (row : List Char) (n : Nat)
    (c : Char) (hc : lowerCase? c = none) (h : value? base row = some n) : c ∉ row := by
  rcases (value?_eq_some_iff base hbase row n).mp h with ⟨places, hplaces, rfl, _⟩
  intro hmem
  rw [ofPlaces, List.mem_reverse, List.mem_map] at hmem
  rcases hmem with ⟨d, hd, hchar⟩
  have hlt := hplaces d hd
  have hsome := (lowerCase?_eq_some_iff c d).mpr ⟨by omega, hchar.symm⟩
  rw [hc] at hsome
  cases hsome

end CallSummary.Numeral
