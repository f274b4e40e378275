import Routing.Proofs.BuiltIn
import Routing.Proofs.Sequence
import Routing.Proofs.TemplateTree

/-!
# Proofs: anchoring

The `^` and `$` of a compiled template are meant to hold for the whole expression. They do if every
fragment that a template brings along is the body of one group. A fragment that closes the groups
around it may begin an alternative of the whole expression, which then lacks one of the two anchors.
-/

namespace Routing

open Regex (Node Match Thread)

namespace Regex.Node

/-- The whole expression is a sequence that begins with `^` and ends with `$`. -/
def IsAnchored (node : Node) : Prop :=
  ∃ items, node = (items ++ [look .textEnd]).foldl cat (look .textStart)

/-- The expression between further anchors. -/
def anchored (node : Node) : Node :=
  ([node] ++ [look .textEnd]).foldl cat (look .textStart)

variable {node : Node} {found : Match} {text rest : List Char}

theorem searchFrom_of_ends {offset : Nat} {before : Option Char} {e : Thread} {es : List Thread}
    (h : ends node ⟨offset, before, rest, []⟩ = e :: es) :
    searchFrom node offset before rest = some ⟨⟨offset, e.offset⟩, e.groups⟩ := by
  cases rest <;> rw [searchFrom, h]

theorem searchFrom_cons_of_ends {offset : Nat} {before : Option Char} {c : Char}
    (h : ends node ⟨offset, before, c :: rest, []⟩ = []) :
    searchFrom node offset before (c :: rest) = searchFrom node (offset + 1) (some c) rest := by
  rw [searchFrom, h]

theorem le_start_of_searchFrom {offset : Nat} {before : Option Char}
    (h : searchFrom node offset before rest = some found) : offset ≤ found.span.start := by
  induction rest generalizing offset before with
  | nil =>
    cases hends : ends node ⟨offset, before, [], []⟩ with
    | nil => simp [searchFrom, hends] at h
    | cons e es =>
      obtain rfl := Option.some.inj ((searchFrom_of_ends hends).symm.trans h)
      exact Nat.le_refl offset
  | cons c cs ih =>
    cases hends : ends node ⟨offset, before, c :: cs, []⟩ with
    | nil =>
      rw [searchFrom_cons_of_ends hends] at h
      exact Nat.le_of_succ_le (ih h)
    | cons e es =>
      obtain rfl := Option.some.inj ((searchFrom_of_ends hends).symm.trans h)
      exact Nat.le_refl offset

/-- What is found from the beginning of the text on is the preferred end there. -/
theorem ends_of_search (h : search node text = some found) (hstart : found.span.start = 0) :
    ∃ e es, ends node ⟨0, none, text, []⟩ = e :: es ∧ found = ⟨⟨0, e.offset⟩, e.groups⟩ := by
  cases hends : ends node ⟨0, none, text, []⟩ with
  | cons e es => exact ⟨e, es, rfl, Option.some.inj (h.symm.trans (searchFrom_of_ends hends))⟩
  | nil =>
    cases text with
    | nil => simp [search, searchFrom, hends] at h
    | cons c cs =>
      rw [search, searchFrom_cons_of_ends hends] at h
      have hle := le_start_of_searchFrom h
      omega

theorem search_anchored_node (node : Node) (text : List Char) :
    search node.anchored text =
      ((ends node ⟨0, none, text, []⟩).flatMap fun e => if e.rest = [] then [e] else []).head?.map
        fun e => ⟨⟨0, e.offset⟩, e.groups⟩ := by
  rw [anchored, search_anchored, List.singleton_append, chain_cons, funext chain_textEnd]

/-- What an anchored expression finds covers the text. -/
theorem IsAnchored.span_eq (h : node.IsAnchored) (hfound : search node text = some found) :
    found.span = ⟨0, text.length⟩ := by
  obtain ⟨items, rfl⟩ := h
  exact span_search_anchored hfound

/-- What is found covers the text exactly if further anchors change nothing. -/
theorem forall_span_iff (node : Node) (text : List Char) :
    (∀ found, search node text = some found → found.span = ⟨0, text.length⟩) ↔
      search node text = search node.anchored text := by
  constructor
  · intro h
    rw [search_anchored_node]
    cases hsearch : search node text with
    | none =>
      cases hends : ends node ⟨0, none, text, []⟩ with
      | nil => rfl
      | cons e es => simp [search, searchFrom_of_ends hends] at hsearch
    | some found =>
      have hspan := h found hsearch
      obtain ⟨e, es, hends, rfl⟩ := ends_of_search hsearch (by rw [hspan])
      have hin := in_of_mem_ends (Thread.in_start text) (hends ▸ List.mem_cons_self)
      have hlength := hin.offset_add_length
      have hoffset : e.offset = text.length := congrArg Span.stop hspan
      have hrest : e.rest = [] := List.length_eq_zero_iff.mp (by omega)
      simp [hends, hrest]
  · intro h found hfound
    rw [h] at hfound
    exact IsAnchored.span_eq ⟨[node], rfl⟩ hfound

end Regex.Node

/-- Between parentheses the fragment is the body of one group. -/
def Regex.IsGroupBody (fragment : String) : Prop :=
  ∃ s, Parser.Fills fragment.toList s

namespace Pattern

variable {text : String} {pattern : Pattern}

/-- The fragments of the built-in kinds fill their groups, and so do those that are group bodies. -/
theorem exists_fills {slot : Slot}
    (h : ∀ fragment, slot.kind = .custom fragment → Regex.IsGroupBody fragment) :
    ∃ s, Regex.Parser.Fills slot.kind.fragment.toList s := by
  by_cases hcustom : ∃ fragment, slot.kind = .custom fragment
  · obtain ⟨fragment, hkind⟩ := hcustom
    rw [hkind]
    exact h fragment hkind
  · exact ⟨_, PlaceholderKind.fills_fragment fun fragment hkind => hcustom ⟨fragment, hkind⟩⟩

/-- Between group bodies the anchors of the template are those of the whole expression. -/
theorem isAnchored_of_isGroupBody (h : compile text = .ok pattern)
    (hbodies : ∀ slot ∈ pattern.slots, ∀ fragment, slot.kind = .custom fragment →
      Regex.IsGroupBody fragment) : pattern.regex.root.IsAnchored := by
  classical
  have hfills : ∀ slot ∈ pattern.slots, ∃ s, Regex.Parser.Fills slot.kind.fragment.toList s :=
    fun slot hslot => exists_fills (hbodies slot hslot)
  obtain ⟨template, -, hslots, hroot⟩ := root_of_compile
    (fun slot => if hs : slot ∈ pattern.slots then (hfills slot hs).choose else {}) h
  refine ⟨_, hroot fun slot hslot => ?_⟩
  rw [← hslots] at hslot
  rw [dif_pos hslot]
  exact (hfills slot hslot).choose_spec

/-- If every fragment given in a template is the body of one group, the whole expression begins with
`^` and ends with `$`; and if it does, what is found in a path covers the path. Exactly, what is
found in a path covers it where the whole expression between further anchors finds the same. -/
theorem span_of_compile (h : compile text = .ok pattern) :
    ((∀ slot ∈ pattern.slots, ∀ fragment, slot.kind = .custom fragment →
        Regex.IsGroupBody fragment) → pattern.regex.root.IsAnchored) ∧
      (pattern.regex.root.IsAnchored → ∀ path found, pattern.regex.search path = some found →
        found.span = ⟨0, path.length⟩) ∧
      ∀ path, (∀ found, pattern.regex.search path = some found →
        found.span = ⟨0, path.length⟩) ↔
          pattern.regex.search path = pattern.regex.root.anchored.search path.toList := by
  refine ⟨isAnchored_of_isGroupBody h, fun hanchored path found hfound => ?_, fun path => ?_⟩
  · rw [← String.length_toList]
    exact hanchored.span_eq hfound
  · rw [← String.length_toList]
    exact Node.forall_span_iff _ _

theorem isGroupBody_alternatives : Regex.IsGroupBody "en|fr" :=
  ⟨_, _, .token rfl rfl (.token rfl rfl (.token rfl rfl (.token rfl rfl (.token rfl rfl
    (.refl _ _))))), rfl, rfl⟩

/-- Alternatives in a fragment stay inside its group. -/
theorem span_of_compile_alternatives :
    ∃ pattern found, compile "/[en|fr:lang]" = .ok pattern ∧
      pattern.regex.search "/fr" = some found ∧ found.span = ⟨0, 3⟩ := by
  obtain ⟨pattern, hcompile, hfacts⟩ := exists_of_compile "/[en|fr:lang]"
    (fun pattern => (pattern.slots, (pattern.regex.search "/fr").isSome))
    (show _ = some ([⟨['/'], "en|fr", "lang", false⟩], true) by decide +kernel)
  obtain ⟨hslots, hsearch⟩ := Prod.mk.inj hfacts
  obtain ⟨found, hfound⟩ := Option.isSome_iff_exists.mp hsearch
  refine ⟨pattern, found, hcompile, hfound, ?_⟩
  obtain ⟨hanchored, hspan, -⟩ := span_of_compile hcompile
  refine hspan (hanchored ?_) "/fr" found hfound
  intro slot hslot fragment hkind
  rw [hslots, List.mem_singleton] at hslot
  subst hslot
  obtain rfl : "en|fr" = fragment := PlaceholderKind.custom.inj hkind
  exact isGroupBody_alternatives

/-- A fragment that is no group body can begin an alternative of the whole expression: this template
accepts a path of which only a prefix has been matched, and another one of which only a suffix
has. -/
theorem span_of_compile_escaped :
    ∃ pattern, compile "/[a))|((b:x]" = .ok pattern ∧
      pattern.isMatch "/azzz" = true ∧ pattern.isMatch "zzb" = true ∧
      (pattern.regex.search "/azzz").map (·.span) = some ⟨0, 2⟩ ∧
      (pattern.regex.search "zzb").map (·.span) = some ⟨2, 3⟩ := by
  obtain ⟨pattern, hcompile, hfacts⟩ := exists_of_compile "/[a))|((b:x]"
    (fun pattern => (pattern.isMatch "/azzz", pattern.isMatch "zzb",
      (pattern.regex.search "/azzz").map (·.span), (pattern.regex.search "zzb").map (·.span)))
    (show _ = some (true, true, some ⟨0, 2⟩, some ⟨2, 3⟩) by decide +kernel)
  simp only [Prod.mk.injEq] at hfacts
  exact ⟨pattern, hcompile, hfacts⟩

end Pattern

end Routing
