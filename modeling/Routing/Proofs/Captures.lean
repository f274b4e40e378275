import Routing.Proofs.Matching
import Routing.Proofs.TemplateText

/-!
# Proofs: captured values

What is captured of an accepted path are the values of its preferred decomposition: group by group
the stretches that the matcher has marked are those values.
-/

namespace Routing

open Regex (Node Span)

/-! ## Groups of the tree -/

theorem Regex.Node.groups_foldl_cat (first : Node) (nodes : List Node) :
    (nodes.foldl cat first).groups = first.groups ++ nodes.flatMap groups := by
  induction nodes generalizing first with
  | nil => simp
  | cons node nodes ih => simp [ih, groups]

namespace Template

variable {slots : List Slot} {k j : Nat}

/-- The first group in the item of a slot is the one that captures its value. -/
theorem groups_node (slot : Slot) (k index : Nat) (body : Node) :
    (slot.node k index body).groups = (index, some (groupName k)) :: body.groups := by
  unfold Slot.node Slot.group
  cases slot.separator <;> split_ifs <;> simp [Node.catAll, Node.groups]

/-- Literal characters hold no groups. -/
theorem groups_slotNodes (slot : Slot) (k index : Nat) (body : Node) :
    (slot.nodes k index body).flatMap Node.groups =
      (index, some (groupName k)) :: body.groups := by
  rw [Slot.nodes, List.flatMap_append, List.flatMap_singleton, groups_node]
  simp [Node.groups]

theorem groups_nodes (slots : List Slot) (k : Nat) :
    (nodes builtIn k k slots).flatMap Node.groups =
      (slots.zipIdx k).map fun x => (x.2 + 1, some (groupName x.2)) := by
  induction slots generalizing k with
  | nil => rfl
  | cons slot slots ih =>
    rw [nodes, List.flatMap_append, groups_slotNodes, List.zipIdx_cons, List.map_cons]
    exact congrArg _ (ih (k + 1))

theorem find?_groups (hk : k ≤ j) (hj : j < k + slots.length) :
    ((slots.zipIdx k).map fun x => (x.2 + 1, some (groupName x.2))).find?
      (fun group => group.2 = some (groupName j)) = some (j + 1, some (groupName j)) := by
  induction slots generalizing k with
  | nil => simp at hj; omega
  | cons slot slots ih =>
    rw [List.zipIdx_cons, List.map_cons]
    by_cases h : k = j
    · subst h
      simp
    · have hne : groupName k ≠ groupName j :=
        fun heq => h (Regex.Parser.groupName_injective heq)
      rw [List.find?_cons_of_neg (by simpa using hne)]
      exact ih (by omega) (by simp at hj; omega)

/-- The group with a name of the template is the one of the slot with its number. -/
theorem groupIndex?_groupName {regex : Regex} {template : Template}
    (hroot : regex.root = template.root builtIn) (hj : j < template.slots.length) :
    regex.groupIndex? (groupName j) = some (j + 1) := by
  have hgroups : regex.root.groups =
      (template.slots.zipIdx 0).map fun x => (x.2 + 1, some (groupName x.2)) := by
    rw [hroot, root, Node.groups_foldl_cat, List.flatMap_append, items, List.flatMap_append,
      groups_nodes]
    simp [Node.groups]
  rw [Regex.groupIndex?, hgroups, find?_groups (Nat.zero_le j) (by omega)]
  rfl

/-! ## Reported values -/

/-- The named values among the shares, in the order of the placeholders. -/
def reported (slots : List Slot) (shares : List (Option (List Char))) : List (String × String) :=
  (slots.zip shares).filterMap fun (slot, share) =>
    if slot.name = "" then none else share.map fun value => (slot.name, String.ofList value)

theorem mem_reported_cons {slot : Slot} {share : Option (List Char)}
    {shares : List (Option (List Char))} {entry : String × String}
    (h : entry ∈ reported slots shares) : entry ∈ reported (slot :: slots) (share :: shares) := by
  obtain ⟨x, hx, heq⟩ := List.mem_filterMap.mp h
  exact List.mem_filterMap.mpr ⟨x, List.mem_cons_of_mem _ hx, heq⟩

theorem lookup_stretches {offset : Nat} {groups : List (Nat × Span)}
    {shares : List (Option (List Char))} (h : j ≤ k) :
    (stretches k offset groups slots shares).lookup j = groups.lookup j := by
  induction slots generalizing k offset groups shares with
  | nil => cases shares <;> rfl
  | cons slot slots ih =>
    cases shares with
    | nil => rfl
    | cons share shares =>
      cases share with
      | none => exact ih (by omega)
      | some v =>
        refine (ih (by omega)).trans ?_
        have hne : (j == k + 1) = false := beq_false_of_ne (by omega)
        rw [List.lookup_cons, hne]

end Template

theorem slice_append {text v rest : List Char} {start : Nat} (h : text.drop start = v ++ rest) :
    (⟨start, start + v.length⟩ : Span).slice text = v := by
  rw [Span.slice, h, Nat.add_sub_cancel_left, List.take_left]

/-- The named values of a match whose groups are the stretches of a decomposition are its named
values. -/
theorem Pattern.namedValues_eq_reported {regex : Regex} {found : Regex.Match} {path : String}
    {tail cs : List Char} {slots : List Slot} {shares : List (Option (List Char))} {k offset : Nat}
    {groups : List (Nat × Span)} (h : Template.Decomposes tail slots shares cs)
    (hindex : ∀ j, k ≤ j → j < k + slots.length →
      regex.groupIndex? (Template.groupName j) = some (j + 1))
    (hfound : found.groups = Template.stretches k offset groups slots shares)
    (hgroups : ∀ j, k < j → groups.lookup j = none) (hpath : path.toList.drop offset = cs) :
    namedValues regex found path k slots = Template.reported slots shares := by
  -- later slots have higher numbers, so the latest stretch with the number of a slot is its own
  induction h generalizing k offset groups with
  | tail => rfl
  | @present slot slots v shares rest hv h ih =>
    set start := offset + slot.literal.length + slot.separatorText.length with hstart
    have hdrop : path.toList.drop start = v ++ rest := by
      rw [hstart, ← List.drop_drop, ← List.drop_drop, hpath, List.drop_left, List.drop_left]
    have hlater := ih (k := k + 1) (fun j hk hj => hindex j (by omega) (by simp; omega)) hfound
      (fun j hj => ?_) (by rw [← List.drop_drop, hdrop, List.drop_left])
    · have hvalue : regex.captured? found path (Template.groupName k) = some (String.ofList v) := by
        have hlookup : found.group? (k + 1) = some ⟨start, start + v.length⟩ := by
          rw [Regex.Match.group?, hfound]
          exact (Template.lookup_stretches (Nat.le_refl _)).trans List.lookup_cons_self
        simp [Regex.captured?, hindex k (Nat.le_refl _) (by simp), hlookup, slice_append hdrop]
      simp only [namedValues, hvalue, hlater, Template.reported, List.zip_cons_cons]
      split_ifs with hname <;> simp [hname]
    · have hne : (j == k + 1) = false := beq_false_of_ne (by omega)
      rw [List.lookup_cons, hne]
      exact hgroups j (by omega)
  | @absent slot slots shares rest hoptional h ih =>
    have hlater := ih (k := k + 1) (fun j hk hj => hindex j (by omega) (by simp; omega)) hfound
      (fun j hj => hgroups j (by omega)) (by rw [← List.drop_drop, hpath, List.drop_left])
    have hvalue : regex.captured? found path (Template.groupName k) = none := by
      have hlookup : found.group? (k + 1) = none := by
        rw [Regex.Match.group?, hfound]
        exact (Template.lookup_stretches (Nat.le_refl _)).trans (hgroups _ (Nat.lt_succ_self k))
      simp [Regex.captured?, hindex k (Nat.le_refl _) (by simp), hlookup]
    simp only [namedValues, hvalue, hlater, Template.reported, List.zip_cons_cons]
    split_ifs with hname <;> simp [hname]

/-! ## The preferred decomposition -/

namespace Template

variable {template : Template} {shares other : List (Option (List Char))} {text : List Char}

/-- The decomposition is preferred to all others of the text. -/
def IsPreferred (template : Template) (shares : List (Option (List Char))) (text : List Char) :
    Prop :=
  Decomposes template.tail template.slots shares text ∧
    ∀ other, Decomposes template.tail template.slots other text →
      other = shares ∨ Prefers template.slots shares other

/-- A text has at most one preferred decomposition. -/
theorem IsPreferred.unique (h : template.IsPreferred shares text)
    (h' : template.IsPreferred other text) : other = shares := by
  rcases h.2 other h'.1 with heq | hprefers
  · exact heq
  · rcases h'.2 shares h.1 with heq | hprefers'
    · exact heq.symm
    · exact absurd hprefers' hprefers.asymm

theorem isPreferred_of_head? (h : (splits template.tail template.slots text).head? = some shares) :
    template.IsPreferred shares text := by
  obtain ⟨more, hsplits⟩ := List.head?_eq_some_iff.mp h
  have hpairwise := pairwise_splits template.tail template.slots text
  rw [hsplits, List.pairwise_cons] at hpairwise
  refine ⟨mem_splits.mp (hsplits ▸ List.mem_cons_self), fun other hother => ?_⟩
  have hmem := mem_splits.mpr hother
  rw [hsplits, List.mem_cons] at hmem
  exact hmem.imp_right (hpairwise.1 other)

/-- A placeholder that may not be left out takes a value in every decomposition. -/
theorem Decomposes.exists_value {tail : List Char} {slots : List Slot} {slot : Slot}
    (h : Decomposes tail slots shares text) (hslot : slot ∈ slots)
    (hoptional : slot.optional = false) (hname : slot.name ≠ "") :
    ∃ value, (slot.name, value) ∈ reported slots shares ∧ slot.kind.Admits value.toList := by
  induction h with
  | tail => simp at hslot
  | @present first slots v shares rest hv h ih =>
    rcases List.mem_cons.mp hslot with rfl | hslot
    · exact ⟨String.ofList v, by simp [reported, hname], by rwa [String.toList_ofList]⟩
    · obtain ⟨value, hvalue, hadmits⟩ := ih hslot
      exact ⟨value, mem_reported_cons hvalue, hadmits⟩
  | @absent first slots shares rest hfirst h ih =>
    rcases List.mem_cons.mp hslot with rfl | hslot
    · simp [hfirst] at hoptional
    · obtain ⟨value, hvalue, hadmits⟩ := ih hslot
      exact ⟨value, mem_reported_cons hvalue, hadmits⟩

end Template

namespace Pattern

variable {text path : String} {pattern : Pattern}

/-- For a template with codes of built-in kinds alone, what is captured of a path are the named
values of its preferred decomposition, in the order of the placeholders; every named placeholder
that is not optional is among them. -/
theorem captures_eq_reported (h : compile text = .ok pattern)
    (hcodes : ∀ slot ∈ pattern.slots, slot.code ∈ PlaceholderKind.builtInCodes)
    (hmatch : pattern.isMatch path = true) :
    ∃ template : Template, template.Written text.toList ∧ pattern.slots = template.slots ∧
      ∃ shares, template.IsPreferred shares path.toList ∧
        (∀ other, template.IsPreferred other path.toList → other = shares) ∧
        pattern.captures path = some (Template.reported template.slots shares) ∧
        ∀ slot ∈ template.slots, slot.optional = false → slot.name ≠ "" →
          ∃ value, (slot.name, value) ∈ Template.reported template.slots shares ∧
            slot.kind.Admits value.toList := by
  obtain ⟨template, htemplate, hslots, hroot⟩ := root_of_builtIn h hcodes
  obtain ⟨found, hfound⟩ := Option.isSome_iff_exists.mp hmatch
  have hsearch := template.search_root path.toList
  rw [← hroot, show pattern.regex.root.search path.toList = some found from hfound,
    Option.map_some] at hsearch
  obtain ⟨shares, hhead, hgroups⟩ := Option.map_eq_some_iff.mp hsearch.symm
  have hpreferred := Template.isPreferred_of_head? hhead
  refine ⟨template, Template.ofText_eq_ok.mp htemplate, hslots, shares, hpreferred,
    fun other => hpreferred.unique, ?_, fun slot => hpreferred.1.exists_value⟩
  rw [captures, hfound, Option.map_some, hslots]
  refine congrArg some (namedValues_eq_reported hpreferred.1 ?_ hgroups.symm (by simp) rfl)
  intro j _ hj
  exact Template.groupIndex?_groupName hroot (by omega)

/-- Of two wildcards the greedy one leaves the lazy one as little as possible. -/
theorem captures_eq_reported_wildcards :
    ∃ pattern, compile "[**:a][*:b]" = .ok pattern ∧
      pattern.captures "xyz" = some [("a", "xy"), ("b", "z")] := by
  obtain ⟨pattern, hcompile, hfacts⟩ := exists_of_compile "[**:a][*:b]"
    (fun pattern => (pattern.slots, pattern.isMatch "xyz"))
    (show _ = some ([⟨[], "**", "a", false⟩, ⟨[], "*", "b", false⟩], true) by decide +kernel)
  obtain ⟨hslots, hmatch⟩ := Prod.mk.inj hfacts
  obtain ⟨template, hwritten, -, shares, -, hunique, hcaptures, -⟩ :=
    captures_eq_reported hcompile (by rw [hslots]; decide) hmatch
  have htemplate : Template.ofText "[**:a][*:b]" =
      .ok ⟨[⟨[], "**", "a", false⟩, ⟨[], "*", "b", false⟩], []⟩ := by decide +kernel
  obtain rfl := Except.ok.inj (htemplate.symm.trans (Template.ofText_eq_ok.mpr hwritten))
  obtain rfl := hunique [some ['x', 'y'], some ['z']]
    (Template.isPreferred_of_head? (by decide +kernel))
  exact ⟨pattern, hcompile, hcaptures⟩

end Pattern

end Routing
