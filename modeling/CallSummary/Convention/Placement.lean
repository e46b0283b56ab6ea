import CallSummary.Word
import CallSummary.Register

/-!
# Placing Arguments

A placement hands out places by index: first the registers of its list, one
each, and then slots of the stack. The stack slots form a sequence of offsets
with a constant stride, of which the first `skip` are not for arguments (a
return address, a home space for the registers).

Offsets are signed 64-bit numbers. The number of the slot, the skipped slots
added to it, and the product with the stride each have to fit; an index for
which one of the three does not has no location at all.

## Main definitions

* `Location`: A register, or an offset from the stack pointer.
* `Placement`: The registers, the number of skipped slots, and the stride.
* `Placement.location`: Where the argument of an index is.

## Theorems

* `Placement.location_of_lt`: The first indices are the registers in order.
* `Placement.location_of_ge`: The others are on the stack or nowhere.
-/

namespace CallSummary

/-- Where one argument is. -/
inductive Location where
  | register (register : Register)
  /-- In the stack slot at the stack pointer minus the offset. -/
  | stack (offset : Offset)
deriving DecidableEq

/-- How the arguments of a function are placed. -/
structure Placement where
  registers : List Register
  /-- How many stack slots come before the first argument on the stack. -/
  skip : Offset
  /-- The distance from one stack argument to the next, negative where the stack
      grows down. -/
  stride : Offset
deriving DecidableEq

namespace Placement

/-- The offset of the stack argument `n` places after the first, if every step
    of its computation fits. -/
def stackOffset? (placement : Placement) (n : Nat) : Option Offset := do
  let slot ← Offset.ofInt? n
  let shifted ← Offset.ofInt? (slot.toInt + placement.skip.toInt)
  Offset.ofInt? (shifted.toInt * placement.stride.toInt)

/-- Where the argument of the given index is; `none` if its offset cannot be
    computed. -/
def location (placement : Placement) (index : Nat) : Option Location :=
  match placement.registers[index]? with
  | some register => some (.register register)
  | none => (placement.stackOffset? (index - placement.registers.length)).map .stack

theorem location_of_lt {placement : Placement} {index : Nat}
    (h : index < placement.registers.length) :
    placement.location index = some (.register placement.registers[index]) := by
  simp [location, h]

theorem location_of_ge {placement : Placement} {index : Nat}
    (h : placement.registers.length ≤ index) :
    placement.location index =
      (placement.stackOffset? (index - placement.registers.length)).map .stack := by
  simp [location, h]

end Placement

end CallSummary
