import CallSummary.Text.CombiningMark
import CallSummary.Text.Hex
import CallSummary.Text.Invisible
import CallSummary.Text.Unassigned

/-!
# Quoted Names

The long form of a value shows the name of a symbol between double quotes, in
such a way that it can be told from every other name. The quote and the
backslash get a backslash in front, four frequent controls have a letter, and
every other character that cannot be told by its looks alone is given by its
code point: one that leaves no mark, one that melts into the character before
it, and one that nobody has given a shape.

## Main definitions

* `Quoted.isPlain`: Whether a character can be told by its looks.
* `Quoted.escape`: What stands for one character between the quotes.
* `Quoted.literal`: The quoted form of a text.
-/

namespace CallSummary.Quoted

/-- Whether the character can be told by its looks alone. -/
def isPlain (c : Char) : Bool :=
  !(Text.invisible.covers c || Text.combiningMarks.covers c || Text.unassigned.covers c)

/-- What stands for the character `c` between the quotes. -/
def escape (c : Char) : List Char :=
  match c with
  | '\x00' => ['\\', '0']
  | '\t' => ['\\', 't']
  | '\r' => ['\\', 'r']
  | '\n' => ['\\', 'n']
  | '\"' => ['\\', '\"']
  | '\\' => ['\\', '\\']
  | c =>
    if isPlain c then [c] else ['\\', 'u', '\x7b'] ++ Hex.digits c.toNat ++ ['\x7d']

/-- The text between double quotes, each character escaped where it has to
    be. -/
def literal (text : String) : String :=
  String.ofList ('\"' :: text.toList.flatMap escape ++ ['\"'])

end CallSummary.Quoted
