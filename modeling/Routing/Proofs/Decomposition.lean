import Routing.Proofs.BuiltIn
import Routing.Template.Basic

/-!
# Proofs: decompositions of a path

A path belongs to a template if it is the template's literal text with a value in the place of each
placeholder. There may be many such decompositions. `Template.splits` lists all of them in the order
of preference: of two decompositions the one is preferred that is preferred at the leftmost
placeholder where they differ.
-/

namespace Routing

open Regex (Node Thread)

namespace Slot

/-- The separator of the placeholder as a text. -/
def separatorText (slot : Slot) : List Char :=
  (slot.separator.map Separator.char).toList

/-- Which of two shares of a path is preferred for the placeholder. To take part is preferred to
being left out. -/
def Prefers (slot : Slot) : Option (List Char) → Option (List Char) → Prop
  | some v, some w => slot.kind.Prefers v w
  | some _, none => True
  | none, _ => False

end Slot

namespace Template

/-- The text consists, in order, of the literal text of the slots and the tail and, for each
placeholder that takes part, of its separator and a value of its kind. The shares tell the values; a
placeholder without one is left out. -/
inductive Decomposes (tail : List Char) : List Slot → List (Option (List Char)) → List Char → Prop
  where
  /-- No placeholder is left. -/
  | tail : Decomposes tail [] [] tail
  /-- The first placeholder takes part. -/
  | present {slot : Slot} {slots : List Slot} {v : List Char} {shares : List (Option (List Char))}
      {rest : List Char} (hv : slot.kind.Admits v) (h : Decomposes tail slots shares rest) :
      Decomposes tail (slot :: slots) (some v :: shares)
        (slot.literal ++ (slot.separatorText ++ (v ++ rest)))
  /-- The first placeholder is left out, together with its separator. -/
  | absent {slot : Slot} {slots : List Slot} {shares : List (Option (List Char))}
      {rest : List Char} (hoptional : slot.optional = true)
      (h : Decomposes tail slots shares rest) :
      Decomposes tail (slot :: slots) (none :: shares) (slot.literal ++ rest)

/-- Of two decompositions the one is preferred at the leftmost placeholder where they differ. -/
inductive Prefers : List Slot → List (Option (List Char)) → List (Option (List Char)) → Prop where
  /-- They differ at the first placeholder. -/
  | here {slot : Slot} {slots : List Slot} {share share' : Option (List Char)}
      {shares shares' : List (Option (List Char))} (h : slot.Prefers share share') :
      Prefers (slot :: slots) (share :: shares) (share' :: shares')
  /-- They agree at the first placeholder. -/
  | later {slot : Slot} {slots : List Slot} {share : Option (List Char)}
      {shares shares' : List (Option (List Char))} (h : Prefers slots shares shares') :
      Prefers (slot :: slots) (share :: shares) (share :: shares')

end Template

theorem Slot.Prefers.asymm {slot : Slot} {share share' : Option (List Char)}
    (h : slot.Prefers share share') : ¬ slot.Prefers share' share := by
  cases share <;> cases share' <;> simp only [Slot.Prefers, not_false_eq_true] at h ⊢
  unfold PlaceholderKind.Prefers at h ⊢
  split_ifs at h ⊢ <;> omega

/-- Of two decompositions at most one is preferred to the other. -/
theorem Template.Prefers.asymm {slots : List Slot} {shares shares' : List (Option (List Char))}
    (h : Prefers slots shares shares') : ¬ Prefers slots shares' shares := by
  induction h with
  | here h =>
    rintro (h' | h')
    · exact h.asymm h'
    · exact h.asymm h
  | later _ ih =>
    rintro (h' | h')
    · exact h'.asymm h'
    · exact ih h'

/-! ## All decompositions -/

namespace Slot

/-- The text cut behind a value at its beginning, separator in front, in the order of preference. -/
def ways (slot : Slot) (cs : List Char) : List (List Char × List Char) :=
  ((slot.separatorText.isPrefixOf? cs).map slot.kind.values).getD []

/-- The shares that the placeholder may take at the beginning of a text, each with the text behind
it, in the order of preference. -/
def choices (slot : Slot) (cs : List Char) : List (Option (List Char) × List Char) :=
  (slot.ways cs).map (fun cut => (some cut.1, cut.2)) ++ if slot.optional then [(none, cs)] else []

variable {slot : Slot} {cs v r : List Char} {share : Option (List Char)}

/-- A slot takes part with its separator and an admissible value. -/
theorem mem_ways :
    (v, r) ∈ slot.ways cs ↔ slot.kind.Admits v ∧ cs = slot.separatorText ++ (v ++ r) := by
  unfold ways
  cases h : slot.separatorText.isPrefixOf? cs with
  | none =>
    simp only [Option.map_none, Option.getD_none, List.not_mem_nil, false_iff, not_and]
    rintro - rfl
    have hsome := List.isPrefixOf?_eq_some_iff_append_eq.mpr (rfl :
      slot.separatorText ++ (v ++ r) = _)
    simp [h] at hsome
  | some rest =>
    obtain rfl := List.isPrefixOf?_eq_some_iff_append_eq.mp h
    simp [PlaceholderKind.mem_values, List.append_cancel_left_eq]

/-- A slot takes part, or it is left out if it is optional. -/
theorem mem_choices : (share, r) ∈ slot.choices cs ↔
    (∃ v, share = some v ∧ slot.kind.Admits v ∧ cs = slot.separatorText ++ (v ++ r)) ∨
      (share = none ∧ slot.optional = true ∧ cs = r) := by
  unfold choices
  rw [List.mem_append, List.mem_map]
  refine or_congr ?_ ?_
  · constructor
    · rintro ⟨⟨v, r'⟩, hv, heq⟩
      obtain ⟨rfl, rfl⟩ := Prod.mk.inj heq
      exact ⟨v, rfl, mem_ways.mp hv⟩
    · rintro ⟨v, rfl, hv⟩
      exact ⟨(v, r), mem_ways.mpr hv, rfl⟩
  · split_ifs with h <;> simp [h, eq_comm]

theorem pairwise_ways (slot : Slot) (cs : List Char) :
    (slot.ways cs).Pairwise fun x y => slot.kind.Prefers x.1 y.1 := by
  unfold ways
  cases slot.separatorText.isPrefixOf? cs with
  | none => exact .nil
  | some rest => exact slot.kind.pairwise_values rest

/-- Every choice is preferred to the ones behind it. -/
theorem pairwise_choices (slot : Slot) (cs : List Char) :
    (slot.choices cs).Pairwise fun x y => slot.Prefers x.1 y.1 := by
  refine List.pairwise_append.mpr ⟨(slot.pairwise_ways cs).map _ fun _ _ h => h, ?_, ?_⟩
  · split_ifs <;> simp
  · intro x hx y hy
    obtain ⟨cut, -, rfl⟩ := List.mem_map.mp hx
    split_ifs at hy
    · rw [List.mem_singleton.mp hy]
      trivial
    · simp at hy

end Slot

namespace Template

/-- All decompositions of a text, the preferred ones first. -/
def splits (tail : List Char) : List Slot → List Char → List (List (Option (List Char)))
  | [], cs => if cs = tail then [[]] else []
  | slot :: slots, cs =>
    match slot.literal.isPrefixOf? cs with
    | none => []
    | some rest => (slot.choices rest).flatMap fun choice =>
      (splits tail slots choice.2).map (choice.1 :: ·)

variable {tail cs : List Char} {slots : List Slot} {shares : List (Option (List Char))}

theorem splits_cons_append (tail : List Char) (slot : Slot) (slots : List Slot) (rest : List Char) :
    splits tail (slot :: slots) (slot.literal ++ rest) = (slot.choices rest).flatMap fun choice =>
      (splits tail slots choice.2).map (choice.1 :: ·) := by
  rw [splits, List.isPrefixOf?_eq_some_iff_append_eq.mpr rfl]

/-- The splits of a path are its decompositions. -/
theorem mem_splits : shares ∈ splits tail slots cs ↔ Decomposes tail slots shares cs := by
  induction slots generalizing cs shares with
  | nil =>
    unfold splits
    constructor
    · intro h
      split_ifs at h with hcs
      · rw [List.mem_singleton.mp h, hcs]
        exact .tail
      · simp at h
    · rintro ⟨⟩
      simp
  | cons slot slots ih =>
    constructor
    · intro h
      rw [splits] at h
      cases hstrip : slot.literal.isPrefixOf? cs with
      | none => simp [hstrip] at h
      | some rest =>
        obtain rfl := List.isPrefixOf?_eq_some_iff_append_eq.mp hstrip
        simp only [hstrip, List.mem_flatMap, List.mem_map] at h
        obtain ⟨⟨share, r⟩, hchoice, shares', hshares', rfl⟩ := h
        rcases Slot.mem_choices.mp hchoice with ⟨v, rfl, hv, rfl⟩ | ⟨rfl, hoptional, rfl⟩
        · exact .present hv (ih.mp hshares')
        · exact .absent hoptional (ih.mp hshares')
    · intro h
      cases h with
      | present hv h =>
        rw [splits_cons_append, List.mem_flatMap]
        exact ⟨_, Slot.mem_choices.mpr (Or.inl ⟨_, rfl, hv, rfl⟩),
          List.mem_map.mpr ⟨_, ih.mpr h, rfl⟩⟩
      | absent hoptional h =>
        rw [splits_cons_append, List.mem_flatMap]
        exact ⟨_, Slot.mem_choices.mpr (Or.inr ⟨rfl, hoptional, rfl⟩),
          List.mem_map.mpr ⟨_, ih.mpr h, rfl⟩⟩

/-- Every decomposition is preferred to the ones behind it. -/
theorem pairwise_splits (tail : List Char) (slots : List Slot) (cs : List Char) :
    (splits tail slots cs).Pairwise (Prefers slots) := by
  induction slots generalizing cs with
  | nil =>
    unfold splits
    split_ifs <;> simp
  | cons slot slots ih =>
    unfold splits
    split
    · exact .nil
    · rename_i rest _
      refine List.pairwise_flatMap.mpr ⟨fun choice _ => ?_, ?_⟩
      · exact (ih choice.2).map _ fun _ _ h => .later h
      · refine (slot.pairwise_choices rest).imp fun {x y} h => ?_
        intro shares hshares shares' hshares'
        obtain ⟨_, -, rfl⟩ := List.mem_map.mp hshares
        obtain ⟨_, -, rfl⟩ := List.mem_map.mp hshares'
        exact .here h

end Template

end Routing
