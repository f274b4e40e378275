import Routing.Regex.Node

/-!
# Matching

A regular expression is read as a function from a position in the text to the positions where it may
end, the preferred one first. Ends at the same offset are interchangeable for whatever follows, so
only the first of them is kept; this keeps every list as short as the text and the whole search
polynomial. The first end of the whole expression, at the first offset that has one, is the match.
-/

namespace Routing.Regex

/-- A stretch of the text, by offsets in characters. -/
structure Span where
  /-- Where the stretch begins. -/
  start : Nat
  /-- Where it ends; the character here no longer belongs to it. -/
  stop : Nat
  deriving Repr, DecidableEq

namespace Span

/-- The characters of the stretch. -/
def slice (span : Span) (text : List Char) : List Char :=
  (text.drop span.start).take (span.stop - span.start)

end Span

/-- A position in the text, with the groups closed on the way to it. -/
structure Thread where
  /-- The number of characters passed. -/
  offset : Nat
  /-- The character just passed. -/
  before : Option Char
  /-- The characters still ahead. -/
  rest : List Char
  /-- The stretches of the closed groups by number, the latest first. -/
  groups : List (Nat × Span)
  deriving Repr, DecidableEq

/-- A set of offsets, as the bits of a number. -/
structure Offsets where
  /-- The number whose set bits are the members. -/
  bits : Nat := 0
  deriving Repr, DecidableEq

namespace Offsets

/-- Whether the offset is a member. -/
def contains (offsets : Offsets) (n : Nat) : Bool :=
  offsets.bits.testBit n

/-- The set with one more member. -/
def insert (offsets : Offsets) (n : Nat) : Offsets :=
  ⟨offsets.bits ||| 1 <<< n⟩

@[simp] theorem contains_empty (n : Nat) : contains {} n = false := by
  simp [contains]

@[simp] theorem contains_insert (offsets : Offsets) (m n : Nat) :
    contains (insert offsets m) n = (contains offsets n || decide (n = m)) := by
  simp only [contains, insert, Nat.testBit_or, Nat.one_shiftLeft, Nat.testBit_two_pow]
  by_cases h : m = n
  · simp [h]
  · simp [h, Ne.symm h]

end Offsets

namespace Thread

/-- The position after the next character, which has to be in the set. -/
def consume? (t : Thread) (chars : CharSet) : Option Thread :=
  match t.rest with
  | [] => none
  | c :: cs =>
    if chars.contains c then
      some { t with offset := t.offset + 1, before := some c, rest := cs }
    else none

/-- The position after group `index` has been closed; it was opened at `start`. -/
def close (t : Thread) (index start : Nat) : Thread :=
  { t with groups := (index, ⟨start, t.offset⟩) :: t.groups }

/-- The threads whose offsets are not in `seen` and not those of earlier threads. -/
def unseen (seen : Offsets) : List Thread → List Thread
  | [] => []
  | t :: ts =>
    if seen.contains t.offset then unseen seen ts
    else t :: unseen (seen.insert t.offset) ts

/-- The first thread for every offset. -/
def distinct (ts : List Thread) : List Thread :=
  unseen {} ts

end Thread

/-! ## Sequences and repetitions of readings -/

/-- A reading of an expression: the ends it may have from a position on, the preferred first. -/
abbrev Reading := Thread → List Thread

namespace Reading

/-- One reading after the other. -/
def seq (first second : Reading) : Reading := fun t =>
  Thread.distinct ((first t).flatMap second)

/-- Either reading, the first one preferred. -/
def orElse (first second : Reading) : Reading := fun t =>
  Thread.distinct (first t ++ second t)

/-- The reading exactly `n` times. -/
def times (reading : Reading) : Nat → Reading
  | 0 => fun t => [t]
  | n + 1 => seq (times reading n) reading

/-- The exits `stop` of a repetition before or after the ends `go` of further rounds. -/
def prefer (greedy : Bool) (go stop : List Thread) : List Thread :=
  if greedy then go ++ stop else stop ++ go

/-- Positions on the way through a counted repetition: those that have left it and those that may
enter another round, in order of preference. -/
abbrev Round := List (Bool × Thread)

/-- The entries whose state and offset do not occur earlier. -/
def freshEntries (left entering : Offsets) : Round → Round
  | [] => []
  | (true, t) :: round =>
    if entering.contains t.offset then freshEntries left entering round
    else (true, t) :: freshEntries left (entering.insert t.offset) round
  | (false, t) :: round =>
    if left.contains t.offset then freshEntries left entering round
    else (false, t) :: freshEntries (left.insert t.offset) entering round

/-- Lets every position that may enter a round do so or leave. -/
def advance (reading : Reading) (greedy : Bool) (round : Round) : Round :=
  freshEntries {} {} (round.flatMap fun
    | (false, t) => [(false, t)]
    | (true, t) =>
      let go := (reading t).map fun e => (true, e)
      if greedy then go ++ [(false, t)] else (false, t) :: go)

/-- At most `n` rounds from the positions of `round`. -/
def advances (reading : Reading) (greedy : Bool) : Nat → Round → Round
  | 0, round => round
  | n + 1, round => advances reading greedy n (advance reading greedy round)

/-- The reading at most `n` times. -/
def upTo (reading : Reading) (greedy : Bool) (n : Nat) : Reading := fun t =>
  Thread.distinct ((advances reading greedy n [(true, t)]).map (·.2))

/-- What a walk through an unbounded repetition has found so far. -/
structure Visit where
  /-- The offsets where a round has begun or the repetition has been left. -/
  seen : Offsets := {}
  /-- The ends found, the latest first. -/
  found : List Thread := []

namespace Visit

/-- Visits `t` unless its offset has been visited: explores what lies behind it with `go` and
records `t` itself after that, or before that if the repetition is lazy. -/
def enter (visit : Visit) (greedy : Bool) (t : Thread) (go : Visit → Visit) : Visit :=
  if visit.seen.contains t.offset then visit
  else
    let visit := { visit with seen := visit.seen.insert t.offset }
    if greedy then
      let visit := go visit
      { visit with found := t :: visit.found }
    else go { visit with found := t :: visit.found }

end Visit

/-- Walks through any number of rounds from `t` on, depth first. A round that consumes nothing leads
nowhere new. Every round passes a character, so `fuel` larger than the number of characters ahead is
enough. -/
def walk (reading : Reading) (greedy : Bool) : Nat → Thread → Visit → Visit
  | 0, _, visit => visit
  | fuel + 1, t, visit =>
    visit.enter greedy t fun visit =>
      (reading t).foldl (fun visit e => walk reading greedy fuel e visit) visit

/-- The reading any number of times. -/
def star (reading : Reading) (greedy : Bool) : Reading := fun t =>
  (walk reading greedy (t.rest.length + 1) t {}).found.reverse

/-- The reading at least once. Only the first round may consume nothing, and then the repetition
ends. -/
def plus (reading : Reading) (greedy : Bool) : Reading := fun t =>
  let visit := (reading t).foldl (fun visit e =>
    if e.offset = t.offset then visit.enter greedy e id
    else walk reading greedy (e.rest.length + 1) e visit) {}
  visit.found.reverse

/-- The reading at least `n` times. -/
def atLeast (reading : Reading) (greedy nullable : Bool) : Nat → Reading
  | 0 =>
    if nullable then fun t => Thread.distinct (prefer greedy (plus reading greedy t) [t])
    else star reading greedy
  | n + 1 => seq (times reading n) (plus reading greedy)

end Reading

namespace Node

/-- The ends of the expression from a position on, the preferred one first. -/
def ends : Node → Reading
  | empty => fun t => [t]
  | set chars => fun t => (t.consume? chars).toList
  | look condition => fun t => if condition.holds t.before t.rest.head? then [t] else []
  | group index _ body => fun t => (ends body t).map (·.close index t.offset)
  | cat first second => Reading.seq (ends first) (ends second)
  | alt first second => Reading.orElse (ends first) (ends second)
  | .repeat min none greedy body => Reading.atLeast (ends body) greedy (nullable body) min
  | .repeat min (some max) greedy body =>
    Reading.seq (Reading.times (ends body) min) (Reading.upTo (ends body) greedy (max - min))

end Node

/-! ## Searching -/

/-- A match: the stretch of the text that was consumed and those of the groups that took part. -/
structure Match where
  /-- The stretch of the whole match. -/
  span : Span
  /-- The stretches of the groups by number, the latest first. -/
  groups : List (Nat × Span)
  deriving Repr, DecidableEq

namespace Match

/-- The stretch of a group, if it took part. -/
def group? (found : Match) (index : Nat) : Option Span :=
  found.groups.lookup index

end Match

namespace Node

/-- The preferred match at the first offset that has one, from `offset` on. -/
def searchFrom (node : Node) (offset : Nat) (before : Option Char) (rest : List Char) :
    Option Match :=
  match ends node ⟨offset, before, rest, []⟩ with
  | e :: _ => some ⟨⟨offset, e.offset⟩, e.groups⟩
  | [] =>
    match rest with
    | [] => none
    | c :: cs => searchFrom node (offset + 1) (some c) cs
termination_by structural rest

/-- The first match in a text. -/
def search (node : Node) (text : List Char) : Option Match :=
  searchFrom node 0 none text

end Node

end Routing.Regex
