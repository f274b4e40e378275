import Routing.Unicode.Category
import Routing.Unicode.Property

/-!
# Texts in quotes

How a text is shown to a developer: in double quotes, with backslash escapes for quotes, backslashes
and line ends, and with code points in braces for all that would not be visible by itself.
-/

namespace Routing.Text

/-- Whether the character shows by itself. Control and format characters, characters without an
assignment, and separators other than the blank do not; a mark that would join the character before
it does not either. -/
def isVisible (c : Char) : Bool :=
  if c.toNat < 0x80 then 0x20 ≤ c.toNat && c.toNat ≠ 0x7F
  else
    !(Unicode.Property.graphemeExtend.contains c || Unicode.Category.other.contains c ||
      Unicode.Category.separator.contains c)

/-- A character inside quotes. -/
def quotedChar (c : Char) : List Char :=
  if c = '\x00' then ['\\', '0']
  else if c = '\t' then ['\\', 't']
  else if c = '\r' then ['\\', 'r']
  else if c = '\n' then ['\\', 'n']
  else if c = '"' then ['\\', '"']
  else if c = '\\' then ['\\', '\\']
  else if isVisible c then [c]
  else ['\\', 'u', '\x7b'] ++ Nat.toDigits 16 c.toNat ++ ['\x7d']

/-- The text in quotes. -/
def quoted (s : String) : String :=
  String.ofList ('"' :: (s.toList.flatMap quotedChar ++ ['"']))

/-- The texts in quotes, separated by commas, in brackets. -/
def quotedList (texts : List String) : String :=
  "[" ++ ", ".intercalate (texts.map quoted) ++ "]"

end Routing.Text
