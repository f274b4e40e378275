import Routing.Unicode.CombiningClass
import Routing.Unicode.Composition

/-!
# Normal form

The composed normal form of a text: every character is taken apart, marks are put into the order of
their classes, and what can be composed is composed.
-/

namespace Routing.Unicode.Normal

/-- The parts of a syllable of Hangul: its letters. -/
def hangulParts? (code : Nat) : Option (List Nat) :=
  if 0xAC00 ≤ code ∧ code ≤ 0xD7A3 then
    let index := code - 0xAC00
    let letters := [0x1100 + index / 588, 0x1161 + index % 588 / 28]
    some (if index % 28 = 0 then letters else letters ++ [0x11A7 + index % 28])
  else none

/-- A code point taken apart; `depth` bounds how often a composite is part of another one. -/
def parts (depth : Nat) (code : Nat) : List Nat :=
  match hangulParts? code with
  | some letters => letters
  | none =>
    match Composition.singletons.find? (·.head? = some code) with
    | some entry => entry.tail
    | none =>
      match depth, Composition.composites.find? (·.head? = some code) with
      | depth + 1, some [_, first, second] => parts depth first ++ [second]
      | _, _ => [code]

/-- A code point with its combining class. -/
abbrev Classed := Nat × Nat

/-- The class is put beside the code point. -/
def classify (code : Nat) : Classed :=
  (code, CombiningClass.ofChar (Char.ofNat code))

/-- Puts a mark behind the marks of its class or a lower one; `before` has the latest first. -/
def settle (before : List Classed) (next : Classed) : List Classed :=
  match before with
  | [] => [next]
  | last :: rest =>
    if next.2 ≠ 0 ∧ next.2 < last.2 then last :: settle rest next else next :: last :: rest

/-- The composite of two code points. -/
def composite? (first second : Nat) : Option Nat :=
  if 0x1100 ≤ first ∧ first ≤ 0x1112 ∧ 0x1161 ≤ second ∧ second ≤ 0x1175 then
    some (0xAC00 + ((first - 0x1100) * 21 + (second - 0x1161)) * 28)
  else if 0xAC00 ≤ first ∧ first ≤ 0xD7A3 ∧ (first - 0xAC00) % 28 = 0 ∧ 0x11A8 ≤ second ∧
      second ≤ 0x11C2 then
    some (first + (second - 0x11A7))
  else
    (Composition.composites.find? (·.tail = [first, second])).bind List.head?

/-- Composes what can be composed. `held` are the marks behind the starter, the latest first. -/
def compose (starter : Option Nat) (held : List Classed) : List Classed → List Nat
  | [] => starter.toList ++ held.reverse.map (·.1)
  | (code, rank) :: rest =>
    match starter with
    | none => if rank = 0 then compose (some code) [] rest else code :: compose none [] rest
    | some first =>
      let free := match held with
        | [] => true
        | (_, last) :: _ => last < rank
      match if free then composite? first code else none with
      | some composed => compose (some composed) held rest
      | none =>
        if rank = 0 then first :: (held.reverse.map (·.1) ++ compose (some code) [] rest)
        else compose starter ((code, rank) :: held) rest

/-- The composed normal form of a text. -/
def compositionForm (text : List Char) : List Char :=
  let apart := (text.flatMap fun c => parts 4 c.toNat).map classify
  let ordered := (apart.foldl settle []).reverse
  (compose none [] ordered).map Char.ofNat

end Routing.Unicode.Normal
