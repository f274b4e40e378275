import Routing.Text.Ascii
import Routing.Text.Blank
import Routing.Text.Pieces

/-!
# Sets of code points given by ranges

The character properties of Unicode are unions of ranges of code points. They are written as texts
such as `41-5A 61-7A AA`, hexadecimal and separated by blanks or line ends, and read into a list of ranges.
-/

namespace Routing.Unicode

/-- Inclusive ranges of code points. -/
abbrev RangeTable := List (Nat × Nat)

namespace RangeTable

/-- Whether some range holds the character. -/
def contains (table : RangeTable) (c : Char) : Bool :=
  table.any fun range => range.1 ≤ c.toNat && c.toNat ≤ range.2

/-- Reads `lo-hi` or a single code point. -/
def readRange? (item : List Char) : Option (Nat × Nat) :=
  match Text.cutAt (· = '-') item with
  | (lo, none) => (Text.numeral? 16 Text.hexValue? lo).map fun n => (n, n)
  | (lo, some hi) => do
    return (← Text.numeral? 16 Text.hexValue? lo, ← Text.numeral? 16 Text.hexValue? hi)

/-- The ranges written in a text, separated by blanks. -/
def ofText (text : String) : RangeTable :=
  ((Text.pieces Text.isBlank text.toList).filter (!·.isEmpty)).filterMap readRange?

end RangeTable

end Routing.Unicode
