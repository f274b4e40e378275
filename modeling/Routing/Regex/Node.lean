import Routing.Regex.CharSet

/-!
# Regular expressions as trees

A `Node` is a regular expression after parsing: flags have been resolved into the sets, assertions
and greediness they stand for, and every group carries its number.
-/

namespace Routing.Regex

/-- Where a position stands with regard to words. -/
inductive WordEdge where
  /-- Between a word character and another character or an end of the text. -/
  | boundary
  /-- Anywhere else. -/
  | interior
  /-- Before a word. -/
  | start
  /-- Behind a word. -/
  | stop
  /-- No word character before. -/
  | startHalf
  /-- No word character after. -/
  | stopHalf
  deriving Repr, DecidableEq

/-- A condition on a position that consumes nothing. -/
inductive Look where
  /-- At the beginning of the text. -/
  | textStart
  /-- At the end of the text. -/
  | textEnd
  /-- At the beginning of a line; with `crlf` the pair of carriage return and line feed counts as
  one line end, and so does either of them alone. -/
  | lineStart (crlf : Bool)
  /-- At the end of a line. -/
  | lineEnd (crlf : Bool)
  /-- At an edge of a word; word characters are those of all scripts or those of ASCII. -/
  | word (edge : WordEdge) (unicode : Bool)
  deriving Repr, DecidableEq

/-- A regular expression. -/
inductive Node where
  /-- Consumes nothing. -/
  | empty
  /-- Consumes one character of the set. -/
  | set (chars : CharSet)
  /-- Consumes nothing where the condition holds. -/
  | look (look : Look)
  /-- A numbered group, possibly with a name. -/
  | group (index : Nat) (name : Option String) (body : Node)
  /-- One after the other. -/
  | cat (first second : Node)
  /-- Either, the first one preferred. -/
  | alt (first second : Node)
  /-- Between `min` and `max` times, any number of times from `min` on without `max`. A greedy
  repetition prefers more rounds, a lazy one fewer. -/
  | repeat (min : Nat) (max : Option Nat) (greedy : Bool) (body : Node)
  deriving Repr, DecidableEq

namespace Look

/-- Whether the character behind or ahead of a position is a word character. -/
def isWord (unicode : Bool) : Option Char → Bool
  | none => false
  | some c => if unicode then CharSet.word.contains c else CharSet.asciiWords.contains c

/-- Whether the condition holds between the characters `before` and `after`, which are absent at the
ends of the text. -/
def holds (look : Look) (before after : Option Char) : Bool :=
  match look with
  | textStart => before.isNone
  | textEnd => after.isNone
  | lineStart false => before.isNone || before = some '\n'
  | lineStart true =>
    before.isNone || before = some '\n' || (before = some '\r' && after ≠ some '\n')
  | lineEnd false => after.isNone || after = some '\n'
  | lineEnd true =>
    after.isNone || after = some '\r' || (after = some '\n' && before ≠ some '\r')
  | word edge unicode =>
    let behind := isWord unicode before
    let ahead := isWord unicode after
    match edge with
    | .boundary => behind ≠ ahead
    | .interior => behind = ahead
    | .start => !behind && ahead
    | .stop => behind && !ahead
    | .startHalf => !behind
    | .stopHalf => !ahead

end Look

namespace Node

/-- The expression for one given character. -/
abbrev char (c : Char) : Node := .set (.single c)

/-- The expressions one after the other. -/
def catAll : List Node → Node
  | [] => empty
  | node :: nodes => nodes.foldl cat node

/-- The expressions as alternatives, the first one preferred. -/
def altAll : List Node → Node
  | [] => empty
  | node :: nodes => nodes.foldl alt node

/-- Whether the expression never consumes a character. -/
def isSilent : Node → Bool
  | empty => true
  | set _ => false
  | look _ => true
  | group _ _ body => isSilent body
  | cat first second => isSilent first && isSilent second
  | alt first second => isSilent first && isSilent second
  | .repeat _ max _ body => isSilent body || max = some 0

/-- Whether the expression may succeed without consuming a character, its conditions left aside. -/
def nullable : Node → Bool
  | empty => true
  | set _ => false
  | look _ => true
  | group _ _ body => nullable body
  | cat first second => nullable first && nullable second
  | alt first second => nullable first || nullable second
  | .repeat min _ _ body => min = 0 || nullable body

/-- A repetition with its trivial cases resolved: a body that consumes nothing is tried at most
once, no rounds are the empty expression, and exactly one round is the body. -/
def repeated (min : Nat) (max : Option Nat) (greedy : Bool) (body : Node) : Node :=
  let min' := if isSilent body then Nat.min min 1 else min
  let max' := if isSilent body then some (Nat.min (max.getD 1) 1) else max
  if max' = some 0 then empty
  else if min' = 1 ∧ max' = some 1 then body
  else .repeat min' max' greedy body

/-- The numbers and names of the groups, in order of their opening. -/
def groups : Node → List (Nat × Option String)
  | empty => []
  | set _ => []
  | look _ => []
  | group index name body => (index, name) :: groups body
  | cat first second => groups first ++ groups second
  | alt first second => groups first ++ groups second
  | .repeat _ _ _ body => groups body

/-- An estimate, in bytes, of the size of an automaton for the expression. Repetitions with counts
are written out. -/
def weight : Node → Nat
  | empty => 32
  | set chars => chars.weight
  | look _ => 32
  | group _ _ body => 64 + weight body
  | cat first second => weight first + weight second
  | alt first second => 64 + weight first + weight second
  | .repeat min none _ body => 64 + Nat.max min 1 * weight body
  | .repeat min (some max) _ body => 64 * (max - min + 1) + max * weight body

end Node

end Routing.Regex
