/-!
# Literal text in regular expressions

Characters with a meaning of their own in a regular expression stand for themselves behind a
backslash.
-/

namespace Routing.Regex

/-- Whether the character has a meaning of its own somewhere in a regular expression. -/
def isSpecial (c : Char) : Bool :=
  c ∈ ['\\', '.', '+', '*', '?', '(', ')', '|', '[', ']', '\x7b', '\x7d', '^', '$', '#', '&', '-',
    '~']

/-- The expression that matches exactly the given text. -/
def escape : List Char → List Char
  | [] => []
  | c :: cs => if isSpecial c then '\\' :: c :: escape cs else c :: escape cs

end Routing.Regex
