import Routing.Regex.Parser
import Routing.Regex.Match

/-!
# Compiled regular expressions

A regular expression is its text together with the tree that was read from it.
-/

namespace Routing

/-- A regular expression that can be matched. -/
structure Regex where
  /-- The expression as it was written. -/
  text : String
  /-- The expression as a tree. -/
  root : Regex.Node
  deriving Repr, DecidableEq

namespace Regex

/-- Reads a regular expression; there is none for a text outside the dialect. -/
def ofText? (text : String) : Option Regex :=
  (Parser.parse? text.toList).map fun root => { text, root }

/-- The first match in a text. -/
def search (regex : Regex) (text : String) : Option Match :=
  regex.root.search text.toList

/-- The names of the groups with the numbers from 1 up to the greatest one in the tree. -/
def groupNames (regex : Regex) : List (Option String) :=
  let groups := regex.root.groups
  let greatest := (groups.map (·.1)).foldl Nat.max 0
  (List.range greatest).map fun i => (groups.lookup (i + 1)).join

/-- The number of the group with a name. -/
def groupIndex? (regex : Regex) (name : String) : Option Nat :=
  (regex.root.groups.find? fun group => group.2 = some name).map (·.1)

/-- The text that a named group captured in a match. -/
def captured? (regex : Regex) (found : Match) (text name : String) : Option String := do
  let index ← regex.groupIndex? name
  let span ← found.group? index
  return String.ofList (span.slice text.toList)

end Regex

end Routing
