import Routing.Unicode.Category
import Routing.Unicode.Property

/-!
# Letters and numbers

Whether a character counts as a letter or as a number of some script. Those of ASCII are decided
without the tables.
-/

namespace Routing.Unicode

/-- Whether the character is alphabetic. -/
def isAlphabetic (c : Char) : Bool :=
  if c.toNat < 0x80 then c.isAlpha else Property.alphabetic.contains c

/-- Whether the character is a number or a digit. -/
def isNumeric (c : Char) : Bool :=
  if c.toNat < 0x80 then c.isDigit else Category.number.contains c

end Routing.Unicode
