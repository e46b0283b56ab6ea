/-!
# Comparing Names without Case

Names of architectures and registers are matched without regard to case. Only
the letters `A` to `Z` have a second form: every other character, an accented
letter too, matches itself alone.

## Main definitions

* `Text.sameIgnoringCase`: Whether two texts agree up to the case of their ASCII
  letters.
-/

namespace CallSummary.Text

/-- Whether the texts agree once the letters `A` to `Z` are made small. -/
def sameIgnoringCase (a b : String) : Bool :=
  a.toList.map Char.toLower == b.toList.map Char.toLower

end CallSummary.Text
