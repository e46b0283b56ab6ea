/-!
# Registers

A register is a place in the guest's register file: a name for the reader, the
offset of its first byte, and its size in bytes. The offset alone decides which
place is meant, so two registers of one offset share what they hold.

## Main definitions

* `Register`: Name, offset and size.
* `Register.bits`: The width of what the register holds.
* `Register.render`: The register as it is shown.
-/

namespace CallSummary

/-- A place in the register file. -/
structure Register where
  /-- The name by which the register is asked for. -/
  name : String
  /-- Offset of the first byte in the register file. -/
  offset : Nat
  /-- Size in bytes. -/
  size : Nat
deriving DecidableEq

namespace Register

/-- The width of the register in bits, counted modulo `2 ^ 32`. -/
def bits (register : Register) : Nat :=
  register.size * 8 % 0x100000000

/-- The register as it is shown: name, offset and size. -/
def render (register : Register) : String :=
  register.name ++ "@" ++ toString register.offset ++ "#" ++ toString register.size

end Register

end CallSummary
