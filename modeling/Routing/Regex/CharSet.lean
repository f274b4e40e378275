import Routing.Unicode.CaseFold
import Routing.Unicode.Category
import Routing.Unicode.Property

/-!
# Character sets

The set of characters that one step of a regular expression may consume. A set is kept as it was
written, as ranges, complements and closures under case; `contains` decides membership.
-/

namespace Routing.Regex

/-- A set of characters. -/
inductive CharSet where
  /-- One character. -/
  | single (c : Char)
  /-- The characters in some of the ranges. -/
  | ranges (table : Unicode.RangeTable)
  /-- The ASCII characters of the first table and the other characters of the second one. -/
  | wide (ascii beyond : Unicode.RangeTable)
  /-- The characters that are not in the set. -/
  | compl (set : CharSet)
  /-- The characters that agree with a member up to simple case folding. -/
  | fold (set : CharSet)
  /-- The characters that agree with a member up to the case of ASCII letters. -/
  | foldAscii (set : CharSet)
  deriving Repr, DecidableEq

namespace CharSet

/-- Whether the character is in the set. -/
def contains : CharSet → Char → Bool
  | single d, c => c = d
  | ranges table, c => table.contains c
  | wide ascii beyond, c => if c.toNat < 0x80 then ascii.contains c else beyond.contains c
  | compl set, c => !contains set c
  | fold set, c => (Unicode.CaseFold.variants c).any (contains set)
  | foldAscii set, c => (Unicode.CaseFold.asciiVariants c).any (contains set)

@[simp] theorem contains_single (d c : Char) : contains (single d) c = decide (c = d) := rfl

/-- The word characters among the ASCII characters. -/
def asciiWords : Unicode.RangeTable := [(0x30, 0x39), (0x41, 0x5A), (0x5F, 0x5F), (0x61, 0x7A)]

/-- The digits among the ASCII characters. -/
def asciiDigits : Unicode.RangeTable := [(0x30, 0x39)]

/-- White space among the ASCII characters. -/
def asciiSpaces : Unicode.RangeTable := [(0x09, 0x0D), (0x20, 0x20)]

/-- Word characters are the alphabetic ones, marks, decimal digits, connecting punctuation and the
two joiners. -/
def word : CharSet :=
  wide asciiWords
    (Unicode.Property.alphabetic ++ Unicode.Category.mark ++ Unicode.Category.decimalNumber ++
      Unicode.Category.connectorPunctuation ++ Unicode.Property.joinControl)

/-- The decimal digits of all scripts. -/
def digit : CharSet := wide asciiDigits Unicode.Category.decimalNumber

/-- White space. -/
def space : CharSet := wide asciiSpaces Unicode.Property.whiteSpace

/-- An estimate, in bytes, of the size of an automaton that reads one member in UTF-8. -/
def weight : CharSet → Nat
  | single c => 64 * c.utf8Size
  | ranges table => table.foldl (fun n range => n + if range.2 < 0x80 then 8 else 64) 64
  | wide _ beyond => 64 * beyond.length + 64
  | compl set => 256 + weight set
  | fold set => 2 * weight set
  | foldAscii set => 16 + weight set

end CharSet

end Routing.Regex
