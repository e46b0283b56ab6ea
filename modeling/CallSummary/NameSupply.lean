import CallSummary.Word

/-!
# A Supply of Fresh Names

Values that a summary makes up need names that nothing else has. A supply
numbers what is drawn from it, upwards and without a gap, so a run can be
repeated and gives the same names again. Its numbers are 64-bit words. After the
last of them it begins again at zero, so names are fresh as long as the numbers
last.

## Main definitions

* `NameSupply`: The number that is drawn next.
* `NameSupply.draw`: Draw a number.
* `NameSupply.fresh`: Draw a number and make a name with it.

## Theorems

* `NameSupply.toNat_next_add`: As long as the numbers last, a supply counts up.
-/

namespace CallSummary

/-- A source of numbers. -/
structure NameSupply where
  /-- The number that is drawn next. -/
  next : Word
deriving DecidableEq

namespace NameSupply

/-- The supply that starts at zero. -/
def zero : NameSupply where
  next := 0

/-- Draw the next number. -/
def draw (supply : NameSupply) : Word × NameSupply :=
  (supply.next, ⟨supply.next + 1⟩)

/-- The name of a stem and a number. -/
def numbered (stem : String) (number : Nat) : String :=
  stem ++ "_" ++ toString number

/-- Draw the next number and put it behind the stem. -/
def fresh (supply : NameSupply) (stem : String) : String × NameSupply :=
  (numbered stem supply.draw.1.toNat, supply.draw.2)

theorem next_add_zero (supply : NameSupply) : supply.next + .ofNat 0 = supply.next :=
  UInt64.add_zero supply.next

/-- As long as the numbers last, the supply counts up. -/
theorem toNat_next_add (supply : NameSupply) (count : Nat)
    (h : supply.next.toNat + count < 0x10000000000000000) :
    (supply.next + .ofNat count).toNat = supply.next.toNat + count := by
  rw [UInt64.toNat_add, UInt64.toNat_ofNat_of_lt' (by simp only [UInt64.size]; omega)]
  exact Nat.mod_eq_of_lt h

-- After the last number the supply begins again.
example : (draw ⟨0xffffffffffffffff⟩).2 = zero := by decide

end NameSupply

end CallSummary
