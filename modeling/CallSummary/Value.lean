import CallSummary.Word
import CallSummary.Text.Quoted

/-!
# Values

What a register or a stack slot holds: a known word, or an opaque symbol known
by its name alone. Either has a width in bits. The word of a concrete value made
here fits its width, which is what `toNat_lowBits` says: `constant` keeps the
low bits and drops the rest. Widths are not limited to that of a word, so a
wider constant has zeros above it.

A value has two written forms. The short one is for a reader and shows the
digits of every byte the width needs; the long one names the kind of the value
and quotes names.

## Main definitions

* `Value`: A concrete word or a named symbol, with its width.
* `Value.lowBits`: The low bits of a word.
* `Value.constant`: The concrete value of a width.
* `Value.render`, `Value.describe`: The short and the long written form.

## Theorems

* `Value.toNat_lowBits`: Keeping low bits is taking a remainder.
* `Value.bits_constant`, `Value.word?_constant`: What a constant holds.
-/

namespace CallSummary

/-- What a register or a stack slot holds, with its width in bits. -/
inductive Value where
  /-- A known word. -/
  | concrete (word : Word) (bits : Nat)
  /-- A value of which only the name is known. -/
  | symbol (name : String) (bits : Nat)
deriving DecidableEq

namespace Value

/-- The width of the value in bits. -/
def bits : Value → Nat
  | .concrete _ bits => bits
  | .symbol _ bits => bits

/-- The word of a concrete value. -/
def word? : Value → Option Word
  | .concrete word _ => some word
  | .symbol _ _ => none

/-- The name of a symbol. -/
def name? : Value → Option String
  | .concrete _ _ => none
  | .symbol name _ => some name

/-- Whether the value is a symbol. -/
def isSymbolic : Value → Bool
  | .concrete _ _ => false
  | .symbol _ _ => true

/-- The low `bits` bits of a word; all of it if the width is that of a word or
    more. -/
def lowBits (bits : Nat) (word : Word) : Word :=
  if bits < 64 then UInt64.ofNat (word.toNat % 1 <<< bits) else word

theorem toNat_lowBits (bits : Nat) (word : Word) :
    (lowBits bits word).toNat = word.toNat % 1 <<< bits := by
  have hword := word.toNat_lt
  unfold lowBits
  split
  -- Below the width of a word the remainder is no larger than the word it is
  -- taken of.
  next =>
    have hle : word.toNat % 1 <<< bits ≤ word.toNat := Nat.mod_le _ _
    exact UInt64.toNat_ofNat_of_lt' (by simp only [UInt64.size]; omega)
  next h =>
    have hpow : 1 <<< 64 ≤ 1 <<< bits := by
      rw [Nat.one_shiftLeft, Nat.one_shiftLeft]
      exact Nat.pow_le_pow_right (by decide) (by omega)
    exact (Nat.mod_eq_of_lt (by omega)).symm

/-- The concrete value of the given width; bits of the word beyond the width are
    dropped. -/
def constant (word : Word) (bits : Nat) : Value :=
  .concrete (lowBits bits word) bits

@[simp] theorem bits_constant (word : Word) (bits : Nat) : (constant word bits).bits = bits := rfl

@[simp] theorem bits_symbol (name : String) (bits : Nat) : (symbol name bits).bits = bits := rfl

@[simp] theorem word?_constant (word : Word) (bits : Nat) :
    (constant word bits).word? = some (lowBits bits word) := rfl

/-- A byte as a value. -/
def ofUInt8 (n : UInt8) : Value := constant n.toUInt64 8

/-- A 16-bit number as a value. -/
def ofUInt16 (n : UInt16) : Value := constant n.toUInt64 16

/-- A 32-bit number as a value. -/
def ofUInt32 (n : UInt32) : Value := constant n.toUInt64 32

/-- A whole word as a value. -/
def ofUInt64 (n : UInt64) : Value := constant n 64

/-- The short form: the word with two digits for each byte of the width, or the
    name, and then the width. -/
def render : Value → String
  | .concrete word bits => Hex.literal (2 * ((bits + 7) / 8)) word.toNat ++ ":" ++ toString bits
  | .symbol name bits => name ++ ":" ++ toString bits

/-- The long form: the kind of the value with its parts, the name in quotes. -/
def describe : Value → String
  | .concrete word bits =>
    "Concrete \x7b value: " ++ toString word.toNat ++ ", bits: " ++ toString bits ++ " \x7d"
  | .symbol name bits =>
    "Symbol \x7b name: " ++ Quoted.literal name ++ ", bits: " ++ toString bits ++ " \x7d"

end Value

end CallSummary
