import Routing.Proofs.Decomposition
import Routing.Proofs.Sequence
import Routing.Proofs.TemplateTree

/-!
# Proofs: matches and decompositions

For a template with built-in kinds alone, the threads of its tree are the decompositions of the
text, in the same order.
-/

namespace Routing

open Regex (Node Thread Span)

/-! ## Literal text -/

namespace Regex.Node

theorem chain_chars (text : List Char) (nodes : List Node) (t : Thread) :
    chain (text.map char ++ nodes) t =
      ((text.isPrefixOf? t.rest).map fun r => chain nodes (t.past text r)).getD [] := by
  induction text generalizing t with
  | nil => rw [List.isPrefixOf?, Option.map_some, Option.getD_some, Thread.past_nil]; rfl
  | cons c text ih =>
    rw [List.map_cons, List.cons_append, chain_cons]
    cases hrest : t.rest with
    | nil =>
      have hends : ends (char c) t = [] := by simp [ends, Thread.consume?, hrest]
      rw [hends]
      rfl
    | cons d cs =>
      rw [ends_set_cons hrest, CharSet.contains_single, List.isPrefixOf?]
      by_cases hd : d = c
      · subst hd
        simp only [decide_true, if_true, List.flatMap_singleton, ih, BEq.rfl]
        cases hstrip : text.isPrefixOf? cs with
        | none => simp [Thread.past, hstrip]
        | some r =>
          obtain rfl := List.isPrefixOf?_eq_some_iff_append_eq.mp hstrip
          rw [show (t.past [d] (text ++ r)).rest = text ++ r from rfl, hstrip, Option.map_some,
            Option.map_some, ← Thread.past_cons]
      · simp [hd, Ne.symm hd]

end Regex.Node

/-! ## Placeholders -/

namespace Slot

/-- The thread behind the separator and a value, with the value captured. -/
def enter (slot : Slot) (index : Nat) (t : Thread) (cut : List Char × List Char) : Thread :=
  ((t.past slot.separatorText (cut.1 ++ cut.2)).past cut.1 cut.2).close index
    (t.offset + slot.separatorText.length)

/-- The thread behind a choice. -/
def take (slot : Slot) (index : Nat) (t : Thread) : Option (List Char) × List Char → Thread
  | (some v, r) => slot.enter index t (v, r)
  | (none, _) => t

variable {slot : Slot}

theorem offset_enter (slot : Slot) (index : Nat) (t : Thread) (cut : List Char × List Char) :
    (slot.enter index t cut).offset = t.offset + slot.separatorText.length + cut.1.length := rfl

theorem pairwise_enter (slot : Slot) (index : Nat) (t : Thread) :
    ((slot.ways t.rest).map (slot.enter index t)).Pairwise fun e e' => e.offset ≠ e'.offset := by
  refine (slot.pairwise_ways t.rest).map _ fun x y h => ?_
  have hlength := h.length_ne
  simp only [offset_enter, ne_eq]
  omega

theorem ends_captured (kind : PlaceholderKind) (index n : Nat) (name : Option String) (t : Thread) :
    Node.ends (.group index name (kind.progress.level.body.node.shift n)) t =
      (kind.values t.rest).map fun cut => (t.past cut.1 cut.2).close index t.offset := by
  show (Node.ends _ t).map _ = _
  rw [PlaceholderKind.ends_body, List.map_map]
  rfl

theorem chain_singleton (node : Node) (t : Thread) : Node.chain [node] t = Node.ends node t := by
  rw [Node.chain_cons]
  exact List.flatMap_singleton' _

/-- The separator and the captured value end behind every way to take part. -/
theorem ends_group (slot : Slot) (k index n : Nat) (t : Thread) :
    Node.ends (slot.group k index (slot.kind.progress.level.body.node.shift n)) t =
      (slot.ways t.rest).map (slot.enter index t) := by
  set captured : Node := .group index (some (Template.groupName k))
    (slot.kind.progress.level.body.node.shift n) with hcaptured
  have hchain : Node.chain (slot.separatorText.map Node.char ++ [captured]) t =
      (slot.ways t.rest).map (slot.enter index t) := by
    rw [Node.chain_chars, ways]
    cases slot.separatorText.isPrefixOf? t.rest with
    | none => rfl
    | some r =>
      simp only [Option.map_some, Option.getD_some, chain_singleton, hcaptured, ends_captured]
      refine List.map_congr_left fun cut hcut => ?_
      rw [enter, ← (PlaceholderKind.mem_values.mp hcut).2]
      rfl
  have hdistinct := Thread.distinct_eq_self (slot.pairwise_enter index t)
  rw [← hchain] at hdistinct ⊢
  clear hchain
  unfold group separatorText at *
  generalize slot.separator = separator at hdistinct ⊢
  cases separator with
  | none => exact (chain_singleton captured t).symm
  | some separator =>
    rw [← hdistinct]
    show Thread.distinct ((Node.ends (.char separator.char) t).flatMap (Node.ends captured)) =
      Thread.distinct ((Node.ends (.char separator.char) t).flatMap (Node.chain [captured]))
    rw [funext (chain_singleton captured)]

theorem offset_ne_of_enter {index : Nat} {t e : Thread}
    (h : e ∈ (slot.ways t.rest).map (slot.enter index t)) : e.offset ≠ t.offset := by
  obtain ⟨cut, hcut, rfl⟩ := List.mem_map.mp h
  have hpos := List.length_pos_iff.mpr (mem_ways.mp hcut).1.1
  rw [offset_enter]
  omega

/-- The item of a slot ends behind every choice. -/
theorem ends_node (slot : Slot) (k index n : Nat) (t : Thread) :
    Node.ends (slot.node k index (slot.kind.progress.level.body.node.shift n)) t =
      (slot.choices t.rest).map (slot.take index t) := by
  have hgroup := slot.ends_group k index n t
  rw [choices, List.map_append, List.map_map, node]
  split_ifs with h
  · rw [Node.ends_optional, hgroup]
    · rfl
    · rw [hgroup]
      exact slot.pairwise_enter index t
    · rw [hgroup]
      exact fun e => offset_ne_of_enter
  · rw [hgroup, List.map_nil, List.append_nil]
    rfl

end Slot

/-! ## Whole templates -/

namespace Template

/-- The stretches of the values of a decomposition in a text that begins at `offset`, in addition to
those in `groups`, the latest first. The slots are numbered from `k` on. -/
def stretches (k offset : Nat) (groups : List (Nat × Span)) :
    List Slot → List (Option (List Char)) → List (Nat × Span)
  | slot :: slots, some v :: shares =>
    let start := offset + slot.literal.length + slot.separatorText.length
    stretches (k + 1) (start + v.length) ((k + 1, ⟨start, start + v.length⟩) :: groups) slots shares
  | slot :: slots, none :: shares =>
    stretches (k + 1) (offset + slot.literal.length) groups slots shares
  | _, _ => groups

/-- What the reader makes of the fragments of the built-in kinds. -/
def builtIn (slot : Slot) : Regex.Parser.State :=
  slot.kind.progress

/-- The threads of the items and `$` are the decompositions of what is ahead. -/
theorem chain_nodes (tail : List Char) (slots : List Slot) (k : Nat) (t : Thread) :
    (Node.chain (nodes builtIn k k slots ++ (tail.map Node.char ++ [.look .textEnd])) t).map
      Thread.groups = (splits tail slots t.rest).map (stretches k t.offset t.groups slots) := by
  induction slots generalizing k t with
  | nil =>
    rw [nodes, List.nil_append, Node.chain_chars, splits]
    cases hstrip : tail.isPrefixOf? t.rest with
    | none =>
      have hne : t.rest ≠ tail := by
        rintro rfl
        simp [List.isPrefixOf?_eq_some_iff_append_eq.mpr (List.append_nil t.rest)] at hstrip
      rw [if_neg hne]
      rfl
    | some r =>
      rw [Option.map_some, Option.getD_some, Slot.chain_singleton]
      obtain heq := List.isPrefixOf?_eq_some_iff_append_eq.mp hstrip
      cases r with
      | nil => simp [Node.ends, Regex.Look.holds, Thread.past, ← heq, stretches]
      | cons c r => simp [Node.ends, Regex.Look.holds, Thread.past, ← heq]
  | cons slot slots ih =>
    rw [nodes, Slot.nodes, List.append_assoc, List.append_assoc, Node.chain_chars, splits]
    cases hstrip : slot.literal.isPrefixOf? t.rest with
    | none => rfl
    | some r =>
      rw [Option.map_some, Option.getD_some, List.singleton_append, Node.chain_cons, builtIn,
        Slot.ends_node, List.flatMap_map, List.map_flatMap]
      dsimp only
      rw [List.map_flatMap]
      -- both sides branch over the choices of the first slot; behind each one the later slots go on
      refine List.flatMap_congr fun choice hchoice => ?_
      obtain ⟨share, r'⟩ := choice
      refine (ih _ _).trans ?_
      rw [List.map_map]
      rcases Slot.mem_choices.mp hchoice with ⟨v, rfl, -, -⟩ | ⟨rfl, -, rfl⟩ <;> rfl

/-- What is found in a text is its preferred decomposition. -/
theorem search_root (template : Template) (text : List Char) :
    ((template.root builtIn).search text).map Regex.Match.groups =
      (splits template.tail template.slots text).head?.map (stretches 0 0 [] template.slots) := by
  have hchain := chain_nodes template.tail template.slots 0 ⟨0, none, text, []⟩
  rw [root, Node.search_anchored, items, List.append_assoc, Option.map_map, ← List.head?_map,
    ← List.head?_map]
  exact congrArg List.head? hchain

end Template

/-- The tree of a compiled template whose placeholders all have codes of built-in kinds. -/
theorem Pattern.root_of_builtIn {text : String} {pattern : Pattern} (h : compile text = .ok pattern)
    (hcodes : ∀ slot ∈ pattern.slots, slot.code ∈ PlaceholderKind.builtInCodes) :
    ∃ template, Template.ofText text = .ok template ∧ pattern.slots = template.slots ∧
      pattern.regex.root = template.root Template.builtIn := by
  obtain ⟨template, htemplate, hslots, hroot⟩ := root_of_compile Template.builtIn h
  refine ⟨template, htemplate, hslots, hroot fun slot hslot => ?_⟩
  exact PlaceholderKind.fills_fragment
    (PlaceholderKind.isBuiltIn_ofCode.mpr (hcodes slot (hslots ▸ hslot)))

end Routing
