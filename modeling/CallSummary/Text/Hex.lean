/-!
# Hexadecimal Numbers

Numbers are written with lower-case digits behind `0x`. A width counts digits,
not the `0x`, and only ever adds zeros: a number with more digits than its width
keeps them all.

## Main definitions

* `Hex.digits`: The digits of a number, without leading zeros.
* `Hex.literal`: A number as it is shown, padded to a width.
-/

namespace CallSummary.Hex

/-- The hexadecimal digits of `n`, most significant first; zero has the one
    digit `0`. -/
def digits (n : Nat) : List Char :=
  Nat.toDigits 16 n

/-- The number `n` behind `0x`, with zeros in front up to `width` digits. -/
def literal (width n : Nat) : String :=
  "0x" ++ String.ofList ((digits n).leftpad width '0')

end CallSummary.Hex
