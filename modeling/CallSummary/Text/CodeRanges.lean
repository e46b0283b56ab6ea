/-!
# Ranges of Code Points

A property of characters is kept as the closed ranges of code points that have
it. The ranges of a table ascend and do not touch, so a property has one table
only. The tables follow Unicode 17.

## Main definitions

* `CodeRanges`: Closed ranges of code points.
* `CodeRanges.covers`: Whether a character is in one of them.
-/

namespace CallSummary

/-- Closed ranges of code points, each given by its first and its last. -/
abbrev CodeRanges := List (Nat × Nat)

namespace CodeRanges

/-- Whether the character is in one of the ranges. -/
def covers (ranges : CodeRanges) (c : Char) : Bool :=
  ranges.any fun range => range.1 ≤ c.toNat && c.toNat ≤ range.2

end CodeRanges

end CallSummary
