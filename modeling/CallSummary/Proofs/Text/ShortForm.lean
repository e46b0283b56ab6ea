import CallSummary.Proofs.Machine.Access
import CallSummary.Proofs.Text.Numeral

/-!
# Reading the Short Form

The short form of a constant tells which constant it is.

Of a constant it shows the number, with two digits for each byte of the width
however small the number is, and the width. `IsShortForm` says so of a text
without a look at how texts are made. A number that fits its width always fits
the digits, as a byte has two of them and the width is rounded up to whole
bytes. So the digits are the row of a fixed width that denotes the number, the
width is the row without a zero in front that denotes it, and there is one row
of either kind. Hence one text is the short form of a number in a width, and it
is the one that is rendered (`isShortForm_iff`).

A reader finds the two rows by the first colon, since no digit is a colon. It
refuses what is no short form of any constant. What it reads is therefore the
number and the width of the one constant that is rendered like that: the low
bits of the word the constant was made from, and all of its bits if the width
is at least that of a word.

The width has to be positive. A constant without a width has no byte to show,
and is shown with a digit all the same.

## Main definitions

* `byteCount`: The bytes of a width.
* `IsShortForm`: The text shows a number in a width.
* `splitColon?`, `ofShortForm?`: Reading a text.

## Theorems

* `byteCount_le_iff`: A width is rounded up to whole bytes.
* `isShortForm_iff`: A number that fits its width has one short form.
* `splitColon?_eq_some_iff`: A text is split at its first colon.
* `ofShortForm?_eq_some_iff`: What is read, and that nothing else is.
* `ofShortForm?_eq_some_iff_render`: A constant is read off its short form.
* `constant_of_read`: The constant is made again from what is read.
* `shortForm_canonical`: The short form is canonical, and can be read back.
* `shortForm_canonical_twelveBits`: Half a byte more than one.
-/

namespace CallSummary.Value

/-- How many bytes a width takes, the last of which need not be full. -/
def byteCount (bits : Nat) : Nat :=
  (bits + 7) / 8

/-- It is the least number of bytes that have room for the width. -/
theorem byteCount_le_iff (bits count : Nat) : byteCount bits ≤ count ↔ bits ≤ 8 * count := by
  unfold byteCount
  omega

/-- The text shows a number in a width: behind `0x` the number, in lower-case
    digits of which there are two for each byte of the width, then a colon and
    the width in decimal, with no zero in front. -/
def IsShortForm (number bits : Nat) (text : String) : Prop :=
  ∃ digits width : List Char,
    text.toList = '0' :: 'x' :: (digits ++ ':' :: width) ∧
      (digits.length = 2 * byteCount bits ∧ Numeral.value? 16 digits = some number) ∧
      width.head? ≠ some '0' ∧ Numeral.value? 10 width = some bits

/-- What stands in front of the first colon, and what stands behind it. -/
def splitColon? : List Char → Option (List Char × List Char)
  | [] => none
  | c :: rest =>
      if c = ':' then some ([], rest)
      else (splitColon? rest).map fun (before, behind) => (c :: before, behind)

/-- Read a number and a width from the short form of a constant. -/
def ofShortForm? (text : String) : Option (Nat × Nat) :=
  match text.toList with
  | '0' :: 'x' :: rest => do
      let (digits, width) ← splitColon? rest
      let number ← Numeral.value? 16 digits
      let bits ← Numeral.value? 10 width
      if (digits.length = 2 * byteCount bits ∧ width.head? ≠ some '0') ∧
          0 < bits ∧ number < 2 ^ min bits 64 then
        some (number, bits)
      else none
  | _ => none

theorem digits_pos (bits : Nat) (hbits : 0 < bits) : 0 < 2 * byteCount bits := by
  have hroom := (byteCount_le_iff bits _).mp le_rfl
  omega

/-- Two digits for each byte are enough for every number of the width. -/
theorem lt_pow_digits (number bits : Nat) (h : number < 2 ^ bits) :
    number < 16 ^ (2 * byteCount bits) := by
  have hroom := (byteCount_le_iff bits _).mp le_rfl
  calc number < 2 ^ bits := h
    _ ≤ 2 ^ (4 * (2 * byteCount bits)) := Nat.pow_le_pow_right (by decide) (by omega)
    _ = 16 ^ (2 * byteCount bits) := by rw [Nat.pow_mul]

theorem toList_shortForm (number bits : Nat) :
    (Hex.literal (2 * ((bits + 7) / 8)) number ++ ":" ++ toString bits).toList =
      '0' :: 'x' :: ((Nat.toDigits 16 number).leftpad (2 * byteCount bits) '0' ++
        ':' :: Nat.toDigits 10 bits) := by
  rw [Nat.toString_eq_ofList_toDigits]
  simp only [Hex.literal, Hex.digits, String.toList_append, String.toList_ofList,
    List.append_assoc]
  rfl

/-- A number that fits its width has one short form, and that is what is
    written. -/
theorem isShortForm_iff (number bits : Nat) (hbits : 0 < bits) (hnumber : number < 2 ^ bits)
    (text : String) :
    IsShortForm number bits text ↔
      text = Hex.literal (2 * ((bits + 7) / 8)) number ++ ":" ++ toString bits := by
  have hdigits := fun row => Numeral.value?_fixed_iff 16 (by decide) (by decide) _
    (digits_pos bits hbits) row number
  have hwidth := fun row => Numeral.value?_plain_iff 10 (by decide) (by decide) row bits hbits
  rw [← String.toList_inj, toList_shortForm]
  simp only [IsShortForm, hdigits, hwidth]
  constructor
  · rintro ⟨digits, width, htext, ⟨_, rfl⟩, rfl⟩
    exact htext
  · intro htext
    exact ⟨_, _, htext, ⟨lt_pow_digits number bits hnumber, rfl⟩, rfl⟩

theorem render_constant (word : Word) (bits : Nat) :
    (constant word bits).render =
      Hex.literal (2 * ((bits + 7) / 8)) (word.toNat % 2 ^ bits) ++ ":" ++ toString bits := by
  rw [constant, render, toNat_lowBits_eq]

theorem isShortForm_iff_render (word : Word) (bits : Nat) (hbits : 0 < bits) (text : String) :
    IsShortForm (word.toNat % 2 ^ bits) bits text ↔ text = (constant word bits).render := by
  rw [render_constant]
  exact isShortForm_iff _ bits hbits (Nat.mod_lt _ (Nat.pow_pos (by decide))) text

/-- A text is split at its first colon. -/
theorem splitColon?_eq_some_iff (chars : List Char) : ∀ before behind,
    splitColon? chars = some (before, behind) ↔
      ':' ∉ before ∧ chars = before ++ ':' :: behind := by
  induction chars with
  | nil =>
      intro before behind
      simp only [splitColon?, reduceCtorEq, List.nil_eq, List.append_eq_nil_iff, and_false]
  | cons c rest ih =>
      intro before behind
      by_cases hc : c = ':'
      -- The colon is here, and nothing stands in front of it.
      · rw [splitColon?, if_pos hc, hc, Option.some.injEq, Prod.mk.injEq]
        constructor
        · rintro ⟨rfl, rfl⟩
          exact ⟨List.not_mem_nil, rfl⟩
        · rintro ⟨hbefore, hchars⟩
          cases before with
          | nil => exact ⟨rfl, (List.cons.inj hchars).2⟩
          | cons d before =>
              rw [(List.cons.inj hchars).1] at hbefore
              exact absurd List.mem_cons_self hbefore
      -- The colon comes later, with one more character in front of it.
      · rw [splitColon?, if_neg hc, Option.map_eq_some_iff]
        constructor
        · rintro ⟨⟨front, back⟩, hsplit, hpair⟩
          cases hpair
          rcases (ih front behind).mp hsplit with ⟨hfront, rfl⟩
          exact ⟨List.not_mem_cons_of_ne_of_not_mem (Ne.symm hc) hfront, rfl⟩
        · rintro ⟨hbefore, hchars⟩
          cases before with
          | nil => exact absurd (List.cons.inj hchars).1 hc
          | cons d before =>
              rw [List.cons_append, List.cons.injEq] at hchars
              rcases hchars with ⟨rfl, hrest⟩
              have hfront := List.not_mem_of_not_mem_cons hbefore
              exact ⟨(before, behind), (ih before behind).mpr ⟨hfront, hrest⟩, rfl⟩

/-- A number and a width are read from the short forms of constants that have
    them, and from no other text. -/
theorem ofShortForm?_eq_some_iff (text : String) (number bits : Nat) :
    ofShortForm? text = some (number, bits) ↔
      (0 < bits ∧ number < 2 ^ min bits 64) ∧ IsShortForm number bits text := by
  constructor
  · intro h
    unfold ofShortForm? at h
    split at h
    next rest htext =>
      simp only [Option.bind_eq_bind, Option.bind_eq_some_iff, Prod.exists] at h
      rcases h with ⟨digits, width, hsplit, found, hdigits, foundBits, hwidth, h⟩
      split at h
      next hconditions =>
        cases h
        have hparts := (splitColon?_eq_some_iff rest digits width).mp hsplit
        refine ⟨hconditions.2, digits, width, ?_, ⟨hconditions.1.1, hdigits⟩, hconditions.1.2,
          hwidth⟩
        rw [htext, hparts.2]
      next => cases h
    next => cases h
  · rintro ⟨hfits, digits, width, htext, ⟨hlength, hdigits⟩, hzero, hwidth⟩
    have hcolon := Numeral.not_mem_of_value? 16 (by decide) digits number ':' rfl hdigits
    have hsplit := (splitColon?_eq_some_iff _ digits width).mpr ⟨hcolon, rfl⟩
    rw [ofShortForm?, htext]
    simp only [hsplit, hdigits, hwidth, Option.bind_eq_bind, Option.bind_some]
    exact if_pos ⟨⟨hlength, hzero⟩, hfits⟩

/-- Of a word no bits are left behind its last one. -/
theorem mod_pow_min (word : Word) (bits : Nat) :
    word.toNat % 2 ^ min bits 64 = word.toNat % 2 ^ bits := by
  have hword := word.toNat_lt
  by_cases hbits : bits ≤ 64
  · rw [Nat.min_eq_left hbits]
  · have hpow : 2 ^ 64 ≤ 2 ^ bits := Nat.pow_le_pow_right (by decide) (by omega)
    rw [Nat.min_eq_right (by omega), Nat.mod_eq_of_lt hword, Nat.mod_eq_of_lt (by omega)]

/-- A constant is read off its short form, and off no other text. -/
theorem ofShortForm?_eq_some_iff_render (word : Word) (bits : Nat) (hbits : 0 < bits)
    (text : String) :
    ofShortForm? text = some (word.toNat % 2 ^ min bits 64, bits) ↔
      text = (constant word bits).render := by
  have hlt : word.toNat % 2 ^ min bits 64 < 2 ^ min bits 64 :=
    Nat.mod_lt _ (Nat.pow_pos (by decide))
  rw [ofShortForm?_eq_some_iff, and_iff_right ⟨hbits, hlt⟩, mod_pow_min]
  exact isShortForm_iff_render word bits hbits text

/-- The constant is made again from what is read of it. -/
theorem constant_of_read (word : Word) (bits : Nat) :
    constant (.ofNat (word.toNat % 2 ^ min bits 64)) bits = constant word bits := by
  have hword := word.toNat_lt
  have hle : word.toNat % 2 ^ bits ≤ word.toNat := Nat.mod_le _ _
  rw [mod_pow_min, constant, constant, concrete.injEq, ← UInt64.toNat_inj, toNat_lowBits_eq,
    toNat_lowBits_eq, UInt64.toNat_ofNat_of_lt' (by simp only [UInt64.size]; omega)]
  exact ⟨Nat.mod_mod _ _, rfl⟩

/-- Constants of one short form are read off it alike, so they are one. -/
theorem render_constant_inj (word other : Word) (bits otherBits : Nat) (hbits : 0 < bits)
    (hother : 0 < otherBits)
    (h : (constant word bits).render = (constant other otherBits).render) :
    constant word bits = constant other otherBits := by
  have hread := (ofShortForm?_eq_some_iff_render word bits hbits _).mpr h.symm
  have hreadOther := (ofShortForm?_eq_some_iff_render other otherBits hother _).mpr rfl
  rw [hread, Option.some.injEq, Prod.mk.injEq] at hreadOther
  rcases hreadOther with ⟨hnumber, rfl⟩
  rw [← constant_of_read word bits, hnumber, constant_of_read other bits]

/-- The short form of a constant of positive width shows the low bits of the
    word in that width, and is the only text that does. Its number and its
    width can be read back, from that text alone, so constants are told apart
    by their short forms, and the constant can be made again. -/
theorem shortForm_canonical (word : Word) (bits : Nat) (hbits : 0 < bits) :
    (∀ text, IsShortForm (word.toNat % 2 ^ bits) bits text ↔
        text = (constant word bits).render) ∧
      (64 ≤ bits → word.toNat % 2 ^ bits = word.toNat) ∧
      (∀ text, ofShortForm? text = some (word.toNat % 2 ^ min bits 64, bits) ↔
        text = (constant word bits).render) ∧
      (∀ other otherBits, 0 < otherBits →
        ((constant word bits).render = (constant other otherBits).render ↔
          constant word bits = constant other otherBits)) ∧
      (ofShortForm? (constant word bits).render).map
          (fun read => constant (.ofNat read.1) read.2) =
        some (constant word bits) := by
  refine ⟨isShortForm_iff_render word bits hbits, ?_,
    ofShortForm?_eq_some_iff_render word bits hbits, ?_, ?_⟩
  · intro hwide
    rw [← mod_pow_min, Nat.min_eq_right hwide]
    exact Nat.mod_eq_of_lt word.toNat_lt
  · intro other otherBits hother
    constructor
    · exact render_constant_inj word other bits otherBits hbits hother
    · intro h
      rw [h]
  · rw [(ofShortForm?_eq_some_iff_render word bits hbits _).mpr rfl]
    exact congrArg some (constant_of_read word bits)

/-- Half a byte more than one is shown with four digits, and no other number of
    digits is read. A word of the same low bits is shown alike, and a number of
    the same digits in another width is not. A width beyond that of a word
    shows the whole word. -/
theorem shortForm_canonical_twelveBits :
    IsShortForm 0x210 12 "0x0210:12" ∧
      ofShortForm? "0x0210:12" = some (0x210, 12) ∧
      ofShortForm? "0x210:12" ≠ some (0x210, 12) ∧
      (constant 0xfedcba9876543210 12).render = (constant 0x1210 12).render ∧
      (constant 0xfedcba9876543210 12).render ≠ (constant 0x210 13).render ∧
      IsShortForm 0xfedcba9876543210 100 "0x0000000000fedcba9876543210:100" := by
  have hrender : (constant 0xfedcba9876543210 12).render = "0x0210:12" := by decide
  have hwide : (constant 0xfedcba9876543210 100).render = "0x0000000000fedcba9876543210:100" := by
    decide
  have hlow : (0xfedcba9876543210 : Word).toNat % 2 ^ 12 = 0x210 := by decide
  rcases shortForm_canonical 0xfedcba9876543210 12 (by decide) with ⟨hform, _, hread, hsame, _⟩
  rcases shortForm_canonical 0xfedcba9876543210 100 (by decide) with ⟨hformWide, hwhole, _⟩
  rw [hlow, hrender] at hform
  rw [Nat.min_eq_left (by decide), hlow, hrender] at hread
  rw [hwhole (by decide), hwide] at hformWide
  refine ⟨(hform _).mpr rfl, (hread _).mpr rfl, ?_, ?_, ?_, (hformWide _).mpr rfl⟩
  · intro hshort
    exact absurd ((hread _).mp hshort) (by decide)
  · exact (hsame 0x1210 12 (by decide)).mpr (by decide)
  · intro halike
    exact absurd ((hsame 0x210 13 (by decide)).mp halike) (by decide)

end CallSummary.Value
