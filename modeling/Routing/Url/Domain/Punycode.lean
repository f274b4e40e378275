/-!
# Punycode

A label with characters outside ASCII can be written in ASCII: its ASCII characters, and behind the
last hyphen a series of numbers to base 36 that tell which characters to insert where.
-/

namespace Routing.Url.Domain.Punycode

/-- The value of a digit to base 36. -/
def digitValue? (c : Char) : Option Nat :=
  if 'a' ≤ c ∧ c ≤ 'z' then some (c.toNat - 97)
  else if 'A' ≤ c ∧ c ≤ 'Z' then some (c.toNat - 65)
  else if '0' ≤ c ∧ c ≤ '9' then some (c.toNat - 22)
  else none

/-- The least digit that does not end a number, at the position `k`. -/
def threshold (k bias : Nat) : Nat :=
  if k ≤ bias then 1 else if bias + 26 ≤ k then 26 else k - bias

/-- Divides by 35 until the number is small, and counts the divisions in steps of 36. -/
def shrink : (fuel delta : Nat) → Nat × Nat
  | 0, delta => (delta, 0)
  | fuel + 1, delta =>
    if delta ≤ 455 then (delta, 0)
    else
      let (small, steps) := shrink fuel (delta / 35)
      (small, steps + 36)

/-- The bias after a number. -/
def adapt (delta length : Nat) (first : Bool) : Nat :=
  let scaled := if first then delta / 700 else delta / 2
  let (small, steps) := shrink 8 (scaled + scaled / length)
  steps + 36 * small / (small + 38)

/-- The progress of a decoder. -/
structure State where
  /-- The characters so far. -/
  out : List Char
  /-- The code point inserted last. -/
  code : Nat
  /-- The position of the last insertion, counted on by the number that is being read. -/
  index : Nat
  /-- The value of `index` before that number. -/
  start : Nat
  /-- The weight of the next digit. -/
  weight : Nat
  /-- The position of the next digit, in steps of 36. -/
  position : Nat
  /-- The current bias. -/
  bias : Nat

/-- Inserts the next character, after a number has been read. -/
def State.insert? (s : State) : Option State :=
  let length := s.out.length + 1
  let code := s.code + s.index / length
  let index := s.index % length
  if code.isValidChar then
    some { out := s.out.take index ++ Char.ofNat code :: s.out.drop index
           code
           index := index + 1
           start := index + 1
           weight := 1
           position := 36
           bias := adapt (s.index - s.start) length (s.start = 0) }
  else none

/-- Decodes the numbers. They have to stay below 2^32. -/
def decodeFrom (s : State) : List Char → Option (List Char)
  | [] => if s.position = 36 then some s.out else none
  | c :: cs =>
    match digitValue? c with
    | none => none
    | some digit =>
      let s := { s with index := s.index + digit * s.weight }
      let t := threshold s.position s.bias
      if 2 ^ 32 ≤ s.index ∨ 2 ^ 32 ≤ s.weight then none
      else if digit < t then s.insert?.bind fun s => decodeFrom s cs
      else decodeFrom { s with weight := s.weight * (36 - t), position := s.position + 36 } cs

/-- Decodes a label in ASCII. -/
def decode? (label : List Char) : Option (List Char) :=
  let behind := label.reverse.takeWhile (· ≠ '-')
  let basic := label.take (label.length - behind.length - 1)
  decodeFrom
    { out := basic, code := 0x80, index := 0, start := 0, weight := 1, position := 36, bias := 72 }
    behind.reverse

end Routing.Url.Domain.Punycode
