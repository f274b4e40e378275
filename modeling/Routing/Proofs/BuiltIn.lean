import Routing.Proofs.Reader
import Routing.Proofs.Runs
import Routing.Template.Placeholder

/-!
# Proofs: built-in kinds

Every built-in kind stands for one or more characters of a class. Its fragment fills a group, and
the tree read from it ends behind the prefixes of what is ahead that lie in the class.
-/

namespace Routing

open Regex (CharSet Node)

namespace PlaceholderKind

/-- The kind is not a regular expression given in the template. -/
def IsBuiltIn (kind : PlaceholderKind) : Prop :=
  ∀ fragment, kind ≠ custom fragment

/-- The codes of the built-in kinds. -/
def builtInCodes : List String :=
  ["i", "a", "h", "s", "*", "**", ""]

/-- A code is that of a built-in kind exactly if it is in the list. -/
theorem isBuiltIn_ofCode {code : String} : (ofCode code).IsBuiltIn ↔ code ∈ builtInCodes := by
  unfold ofCode IsBuiltIn builtInCodes
  split_ifs <;> simp_all

/-- Whether a value of the kind may hold the character. -/
def holds : PlaceholderKind → Char → Bool
  | integer, c => c.isDigit
  | alphanumeric, c => c.isAlphanum
  | hex, c => c.isDigit || ('A' ≤ c && c ≤ 'F') || ('a' ≤ c && c ≤ 'f')
  | slug, c => c.isAlphanum || c = '_' || c = '-'
  | lazy, c => c ≠ '\n'
  | greedy, c => c ≠ '\n'
  | segment, c => c ≠ '/' && c ≠ '.'
  | custom _, _ => false

/-- The values of a built-in kind are the texts of one or more of its characters. -/
def Admits (kind : PlaceholderKind) (value : List Char) : Prop :=
  value ≠ [] ∧ ∀ c ∈ value, kind.holds c = true

/-- Whether longer values are preferred to shorter ones. -/
def prefersLonger : PlaceholderKind → Bool
  | lazy => false
  | _ => true

/-- The set of the characters as the fragment describes it. -/
def chars : PlaceholderKind → CharSet
  | integer => .ranges [(0x30, 0x39)]
  | alphanumeric => .ranges [(0x30, 0x39), (0x41, 0x5A), (0x61, 0x7A)]
  | hex => .ranges [(0x30, 0x39), (0x41, 0x46), (0x61, 0x66)]
  | slug => .ranges [(0x30, 0x39), (0x41, 0x5A), (0x61, 0x7A), (0x5F, 0x5F), (0x2D, 0x2D)]
  | lazy => .compl (.single '\n')
  | greedy => .compl (.single '\n')
  | segment => .compl (.ranges [(0x2F, 0x2F), (0x2E, 0x2E)])
  | custom _ => .ranges []

theorem isAlphanum_eq (c : Char) :
    c.isAlphanum = (decide ('A' ≤ c ∧ c ≤ 'Z') || ('a' ≤ c && c ≤ 'z') || c.isDigit) :=
  rfl

/-- The set holds the characters that the kind takes. -/
theorem contains_chars (kind : PlaceholderKind) : kind.chars.contains = kind.holds := by
  funext c
  rw [Bool.eq_iff_iff]
  cases kind <;>
    simp only [chars, holds, CharSet.contains, Unicode.RangeTable.contains, Char.isDigit,
      isAlphanum_eq, List.any_cons, List.any_nil,
      Bool.or_eq_true, Bool.and_eq_true, decide_eq_true_eq, Char.le_def, UInt32.le_iff_toNat_le,
      Char.toNat_val, ge_iff_le, Bool.not_eq_true', ne_eq, ← Char.toNat_inj, Bool.or_false,
      Bool.or_eq_false_iff, Bool.and_eq_false_iff, decide_eq_false_iff_not, Char.reduceToNat]
  all_goals omega

/-- The items that the reader has found at the end of the fragment of a built-in kind. -/
def progress (kind : PlaceholderKind) : Regex.Parser.State where
  level :=
    { pieces := [{
        node := .repeat 1 none kind.prefersLonger (.set kind.chars)
        height := match kind with
          | lazy | greedy => 1
          | _ => 2 }] }

/-- The fragments of the built-in kinds fill groups. -/
theorem fills_fragment {kind : PlaceholderKind} (h : kind.IsBuiltIn) :
    Regex.Parser.Fills kind.fragment.toList kind.progress := by
  cases kind with
  | custom fragment => exact absurd rfl (h fragment)
  | _ => exact ⟨_, .token rfl rfl (.token rfl rfl (.refl _ _)), rfl, rfl⟩

/-! ## Values at the beginning of a text -/

/-- The text cut behind the values of the kind at its beginning, in the order of preference. -/
def values (kind : PlaceholderKind) (cs : List Char) : List (List Char × List Char) :=
  Regex.Reading.preferred kind.prefersLonger (Regex.cuts kind.holds cs)

/-- Of two values at the same place the one is preferred to the other. -/
def Prefers (kind : PlaceholderKind) (v w : List Char) : Prop :=
  if kind.prefersLonger then w.length < v.length else v.length < w.length

/-- The values at the front of a text are the admissible runs. -/
theorem mem_values {kind : PlaceholderKind} {cs v r : List Char} :
    (v, r) ∈ kind.values cs ↔ kind.Admits v ∧ cs = v ++ r := by
  have hmem : (v, r) ∈ kind.values cs ↔ (v, r) ∈ Regex.cuts kind.holds cs := by
    unfold values Regex.Reading.preferred
    split_ifs <;> simp
  rw [hmem, Regex.mem_cuts, Admits, and_assoc]

theorem pairwise_values (kind : PlaceholderKind) (cs : List Char) :
    (kind.values cs).Pairwise fun x y => kind.Prefers x.1 y.1 := by
  have hlt := Regex.pairwise_cuts kind.holds cs
  unfold values Prefers Regex.Reading.preferred
  split_ifs with h
  · exact List.pairwise_reverse.mpr hlt
  · exact hlt

theorem Prefers.length_ne {kind : PlaceholderKind} {v w : List Char} (h : kind.Prefers v w) :
    v.length ≠ w.length := by
  unfold Prefers at h
  split_ifs at h <;> omega

/-- The tree of the fragment of a built-in kind ends behind its values. -/
theorem ends_body (kind : PlaceholderKind) (n : Nat) (t : Regex.Thread) :
    Node.ends (kind.progress.level.body.node.shift n) t =
      (kind.values t.rest).map fun cut => t.past cut.1 cut.2 := by
  rw [values, ← contains_chars]
  exact Node.ends_repeat_set kind.chars kind.prefersLonger t

end PlaceholderKind

end Routing
