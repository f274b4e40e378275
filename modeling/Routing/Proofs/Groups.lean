import Mathlib.Data.List.Nodup
import Routing.Proofs.Captures
import Routing.Proofs.Fragments

/-!
# Proofs: groups of accepted templates

Groups are numbered in the order in which they are opened, and no name is given twice. This holds
for everything that the reader accepts. If every fragment of a template stays inside its group, the
names of the template are those of the groups around its fragments, in the order of the
placeholders, and no fragment has a group with such a name. A fragment that reaches beyond its group
may hide the group of a later placeholder and put one of its own in that place.
-/

namespace Routing

open Regex (Node)

/-! ## Groups in a tree -/

namespace Regex.Node

theorem groups_foldl_alt (first : Node) (nodes : List Node) :
    (nodes.foldl alt first).groups = first.groups ++ nodes.flatMap groups := by
  induction nodes generalizing first with
  | nil => simp
  | cons node nodes ih => simp [ih, groups]

theorem groups_catAll (nodes : List Node) : (catAll nodes).groups = nodes.flatMap groups := by
  cases nodes with
  | nil => rfl
  | cons node nodes => exact groups_foldl_cat node nodes

theorem groups_altAll (nodes : List Node) : (altAll nodes).groups = nodes.flatMap groups := by
  cases nodes with
  | nil => rfl
  | cons node nodes => exact groups_foldl_alt node nodes

theorem IsAtom.groups_eq {node : Node} (h : node.IsAtom) : node.groups = [] := by
  rcases h with ⟨chars, rfl⟩ | ⟨condition, rfl⟩ <;> rfl

/-- A repetition keeps the groups of its body or, without a round, drops them. -/
theorem groups_repeated (min : Nat) (max : Option Nat) (greedy : Bool) (body : Node) :
    (repeated min max greedy body).groups.Sublist body.groups := by
  unfold repeated
  dsimp only
  generalize (if isSilent body then Nat.min min 1 else min) = min'
  generalize (if isSilent body then some (Nat.min (max.getD 1) 1) else max) = max'
  split_ifs
  · exact List.nil_sublist _
  · exact List.Sublist.refl _
  · exact List.Sublist.refl _

/-- The names of the groups, in the order of their opening. -/
def names (node : Node) : List String :=
  node.groups.filterMap Prod.snd

theorem names_shift (n : Nat) (node : Node) : (node.shift n).names = node.names := by
  unfold names
  induction node with
  | empty | set | look => rfl
  | group _ _ _ ih => simp only [shift, groups, List.filterMap_cons, ih]
  | cat _ _ ih₁ ih₂ | alt _ _ ih₁ ih₂ => simp only [shift, groups, List.filterMap_append, ih₁, ih₂]
  | «repeat» _ _ _ _ ih => exact ih

end Regex.Node

/-! ## Groups that have been opened -/

namespace Regex.Parser

/-- The groups in the items of the level, in the order of their opening. -/
def Level.groups (level : Level) : List (Nat × Option String) :=
  (level.branches.reverse ++ level.pieces.reverse).flatMap fun piece => piece.node.groups

/-- The group that is captured, if it is one. -/
def GroupKind.groups : GroupKind → List (Nat × Option String)
  | plain => []
  | capture index name => [(index, name)]

/-- The groups that have been opened, except those in items that were dropped, in the order of their
opening. -/
def State.groups (s : State) : List (Nat × Option String) :=
  s.outer.reverse.flatMap (fun around => around.2.groups ++ around.1.groups) ++ s.level.groups

namespace Level

theorem groups_branch (level : Level) :
    level.branch.node.groups = level.pieces.reverse.flatMap fun piece => piece.node.groups := by
  rw [node_branch, Node.groups_catAll, ← List.map_reverse, List.flatMap_map]

/-- The body of a level has the groups of its branches and of its pieces. -/
theorem groups_body (level : Level) : level.body.node.groups = level.groups := by
  rw [body, node_joined fun _ => rfl, Node.groups_altAll, List.flatMap_map, List.reverse_cons,
    List.flatMap_append, List.flatMap_singleton, groups_branch, groups, List.flatMap_append]

theorem groups_push (level : Level) (piece : Piece) :
    groups { level with pieces := piece :: level.pieces } = level.groups ++ piece.node.groups := by
  simp [groups]

end Level

namespace State

variable {s s' : State}

theorem groups_push (piece : Piece) : (s.push piece).groups = s.groups ++ piece.node.groups := by
  unfold groups
  rw [List.append_assoc]
  exact congrArg _ (s.level.groups_push piece)

theorem groups_openGroup (kind : GroupKind) (flags : Flags) :
    (s.openGroup kind flags).groups = s.groups ++ kind.groups := by
  simp [groups, openGroup, Level.groups]

theorem groups_nextBranch : s.nextBranch.groups = s.groups := by
  have hlevel : s.nextBranch.level.groups = s.level.groups := by
    simp [nextBranch, Level.groups, Level.groups_branch]
  unfold groups
  rw [hlevel]
  rfl

theorem groups_closeGroup (h : s.closeGroup = some s') : s'.groups = s.groups := by
  unfold closeGroup at h
  split at h
  · simp at h
  · rename_i kind level outer houter
    obtain rfl := Option.some.inj h
    have hpiece : (kind.close s.level.body).node.groups = kind.groups ++ s.level.groups := by
      rw [← Level.groups_body]
      cases kind <;> rfl
    rw [groups_push, hpiece]
    simp [groups, houter]

/-- Repeating a piece may drop groups, and adds none. -/
theorem groups_repeatLast {min : Nat} {max : Option Nat} {greedy : Bool}
    (h : s.repeatLast min max greedy = some s') :
    s'.groups.Sublist s.groups ∧ s'.count = s.count ∧ s'.names = s.names := by
  unfold repeatLast at h
  split at h
  · simp at h
  · rename_i piece pieces hpieces
    split_ifs at h
    obtain rfl := Option.some.inj h
    refine ⟨?_, rfl, rfl⟩
    simp only [groups, Level.groups, hpieces, List.reverse_cons, List.flatMap_append,
      List.flatMap_singleton, ← List.append_assoc]
    exact (Node.groups_repeated _ _ _ _).append_left _

/-- The numbers of the groups increase up to the count, the names of the groups are among those that
have been given, in the same order, and no name has been given twice. -/
structure Numbered (s : State) : Prop where
  increasing : (s.groups.map Prod.fst).Pairwise (· < ·)
  bounded : ∀ group ∈ s.groups, group.1 ≤ s.count
  named : (s.groups.filterMap Prod.snd).Sublist s.names.reverse
  distinct : s.names.Nodup

theorem Numbered.start : ({} : State).Numbered :=
  ⟨.nil, by simp [groups, Level.groups], .slnil, .nil⟩

theorem Numbered.of_sublist (h : s.Numbered) (hgroups : s'.groups.Sublist s.groups)
    (hcount : s'.count = s.count) (hnames : s'.names = s.names) : s'.Numbered where
  increasing := h.increasing.sublist (hgroups.map Prod.fst)
  bounded := fun group hgroup => hcount ▸ h.bounded group (hgroups.subset hgroup)
  named := hnames ▸ (hgroups.filterMap Prod.snd).trans h.named
  distinct := hnames ▸ h.distinct

theorem Numbered.of_eq (h : s.Numbered) (hgroups : s'.groups = s.groups)
    (hcount : s'.count = s.count) (hnames : s'.names = s.names) : s'.Numbered :=
  h.of_sublist (hgroups ▸ List.Sublist.refl _) hcount hnames

/-- A group that is opened has the next number, and its name is new. -/
theorem groups_openCapture {name : Option String} (h : s.openCapture name = some s') :
    s'.groups = s.groups ++ [(s.count + 1, name)] ∧ s'.count = s.count + 1 ∧
      s'.names = name.toList ++ s.names ∧ ∀ x ∈ name, x ∉ s.names := by
  unfold openCapture at h
  split_ifs at h with hused
  obtain rfl := Option.some.inj h
  refine ⟨groups_openGroup (.capture (s.count + 1) name) _, rfl, rfl, ?_⟩
  rintro x rfl
  simpa using hused

theorem Numbered.of_openCapture {name : Option String} (h : s.Numbered)
    (hopen : s.openCapture name = some s') : s'.Numbered := by
  obtain ⟨hgroups, hcount, hnames, hnew⟩ := groups_openCapture hopen
  constructor
  · rw [hgroups, List.map_append, List.pairwise_append]
    refine ⟨h.increasing, List.pairwise_singleton _ _, fun i hi j hj => ?_⟩
    obtain ⟨group, hgroup, rfl⟩ := List.mem_map.mp hi
    obtain rfl := List.mem_singleton.mp hj
    exact Nat.lt_succ_of_le (h.bounded group hgroup)
  · rw [hgroups, hcount]
    intro group hgroup
    rcases List.mem_append.mp hgroup with hgroup | hgroup
    · exact Nat.le_succ_of_le (h.bounded group hgroup)
    · rw [List.mem_singleton.mp hgroup]
  · rw [hgroups, hnames, List.filterMap_append, List.reverse_append]
    refine h.named.append ?_
    cases name <;> simp
  · rw [hnames]
    cases name with
    | none => exact h.distinct
    | some x => exact List.nodup_cons.mpr ⟨hnew x rfl, h.distinct⟩

/-- Every move of the reader keeps the numbering. -/
theorem Numbered.of_moves (hmove : s.Moves s') (h : s.Numbered) : s'.Numbered := by
  cases hmove with
  | item hatom =>
    exact h.of_eq (by rw [groups_push, hatom.groups_eq, List.append_nil]) rfl rfl
  | flags flags =>
    have hgroups := groups_push (s := s) { node := .empty, repeatable := false }
    exact h.of_eq (hgroups.trans (List.append_nil _)) rfl rfl
  | openPlain flags =>
    exact h.of_eq ((groups_openGroup .plain flags).trans (List.append_nil _)) rfl rfl
  | openCapture hopen => exact h.of_openCapture hopen
  | close hclose =>
    have hgroups := groups_closeGroup hclose
    unfold closeGroup at hclose
    split at hclose
    · simp at hclose
    · obtain rfl := Option.some.inj hclose
      exact h.of_eq hgroups rfl rfl
  | branch => exact h.of_eq groups_nextBranch rfl rfl
  | again hrepeat =>
    obtain ⟨hgroups, hcount, hnames⟩ := groups_repeatLast hrepeat
    exact h.of_sublist hgroups hcount hnames

/-- Everything that is read from the beginning on is numbered. -/
theorem numbered_of_run {fuel : Nat} {cs : List Char} (h : run fuel {} cs = some s) : s.Numbered :=
  run_induction (fun _ _ hmove h => h.of_moves hmove) h .start

theorem groups_of_outer (h : s.outer = []) : s.groups = s.level.body.node.groups := by
  rw [Level.groups_body, groups, h]
  rfl

end State

/-- So a fragment that fills its group is numbered. -/
theorem Fills.numbered {fragment : List Char} {s : State} (h : Fills fragment s) : s.Numbered := by
  obtain ⟨rest, hreads, -⟩ := h
  exact hreads.induction (fun _ _ hmove h => h.of_moves hmove) .start

/-- The groups in the tree of a fragment have names that it gives. -/
theorem Fills.names_subset {fragment : List Char} {s : State} (h : Fills fragment s) {name : String}
    (hname : name ∈ s.level.body.node.names) : name ∈ s.names := by
  have hnumbered := h.numbered
  obtain ⟨-, -, -, houter⟩ := h
  rw [Node.names, ← State.groups_of_outer houter] at hname
  exact List.mem_reverse.mp (hnumbered.named.subset hname)

end Regex.Parser

/-! ## Names of a template -/

namespace Template

open Regex.Parser (Fills State)

variable {progress : Slot → State} {slots : List Slot} {slot : Slot} {k i n : Nat}

/-- The names of the groups for `n` placeholders. -/
def groupNames (n : Nat) : List String :=
  (List.range n).map groupName

theorem groupName_mem_names (hk : k ≤ i) (hi : i < k + slots.length) :
    groupName i ∈ names progress k slots := by
  induction slots generalizing k with
  | nil => simp at hi; omega
  | cons slot slots ih =>
    by_cases h : k = i
    · subst h
      exact List.mem_append_left _ List.mem_cons_self
    · exact List.mem_append_right _ (ih (by omega) (by simp at hi; omega))

theorem names_subset_names (hslot : slot ∈ slots) {name : String}
    (hname : name ∈ (progress slot).names) : name ∈ names progress k slots := by
  induction slots generalizing k with
  | nil => simp at hslot
  | cons first slots ih =>
    rcases List.mem_cons.mp hslot with rfl | hslot
    · exact List.mem_append_left _ (List.mem_cons_of_mem _ (List.mem_reverse.mpr hname))
    · exact List.mem_append_right _ (ih hslot)

/-- If no name is given twice, no fragment gives a name of the template. -/
theorem groupName_not_mem (hnodup : (names progress k slots).Nodup) (hslot : slot ∈ slots)
    (hk : k ≤ i) (hi : i < k + slots.length) : groupName i ∉ (progress slot).names := by
  intro hmem
  induction slots generalizing k with
  | nil => simp at hslot
  | cons first slots ih =>
    rw [names, List.nodup_append] at hnodup
    obtain ⟨hfirst, hlater, hdisjoint⟩ := hnodup
    rcases List.mem_cons.mp hslot with rfl | hslot
    · by_cases h : k = i
      · subst h
        exact (List.nodup_cons.mp hfirst).1 (List.mem_reverse.mpr hmem)
      · have hin : groupName i ∈ names progress (k + 1) slots :=
          groupName_mem_names (by omega) (by simp at hi; omega)
        exact hdisjoint _ (List.mem_cons_of_mem _ (List.mem_reverse.mpr hmem)) _ hin rfl
    · by_cases h : k = i
      · subst h
        exact hdisjoint _ List.mem_cons_self _ (names_subset_names hslot hmem) rfl
      · exact ih hlater hslot (by omega) (by simp at hi; omega)

theorem mem_groupNames {name : String} : name ∈ groupNames n ↔ ∃ i < n, groupName i = name := by
  simp [groupNames]

/-- Of the names in the items those of the template remain, if the fragments bring none of them. -/
theorem filter_names_nodes (count : Nat)
    (hfills : ∀ slot ∈ slots, Fills slot.kind.fragment.toList (progress slot))
    (hnew : ∀ slot ∈ slots, ∀ i < n, groupName i ∉ (progress slot).names)
    (hn : k + slots.length ≤ n) :
    (((nodes progress k count slots).flatMap Node.groups).filterMap Prod.snd).filter
        (· ∈ groupNames n) = (List.range' k slots.length).map groupName := by
  induction slots generalizing k count with
  | nil => rfl
  | cons slot slots ih =>
    have hk : groupName k ∈ groupNames n :=
      mem_groupNames.mpr ⟨k, by simp at hn; omega, rfl⟩
    have hfragment : ((progress slot).level.body.node.names).filter (· ∈ groupNames n) = [] := by
      refine List.filter_eq_nil_iff.mpr fun name hname hmem => ?_
      obtain ⟨i, hi, rfl⟩ := mem_groupNames.mp (of_decide_eq_true hmem)
      exact hnew slot (by simp) i hi ((hfills slot (by simp)).names_subset hname)
    have hlater := ih (k := k + 1) (count + 1 + (progress slot).count)
      (fun slot' hslot' => hfills slot' (by simp [hslot']))
      (fun slot' hslot' => hnew slot' (by simp [hslot'])) (by simp at hn; omega)
    rw [nodes, List.flatMap_append, groups_slotNodes, List.cons_append, List.filterMap_cons]
    dsimp only
    rw [List.filterMap_append, List.filter_cons_of_pos (by simpa using hk), List.filter_append,
      hlater]
    have hshift := Node.names_shift (count + 1) (progress slot).level.body.node
    unfold Node.names at hshift hfragment
    rw [hshift, hfragment]
    rfl

/-- The names of the template in its tree, if the fragments bring none of them. -/
theorem filter_names_root {template : Template}
    (hfills : ∀ slot ∈ template.slots, Fills slot.kind.fragment.toList (progress slot))
    (hnew : ∀ slot ∈ template.slots, ∀ i < template.slots.length,
      groupName i ∉ (progress slot).names) :
    (template.root progress).names.filter (· ∈ groupNames template.slots.length) =
      groupNames template.slots.length := by
  have hgroups : (template.root progress).groups =
      (nodes progress 0 0 template.slots).flatMap Node.groups := by
    rw [root, Node.groups_foldl_cat, List.flatMap_append, items, List.flatMap_append]
    simp [Node.groups]
  rw [Node.names, hgroups, filter_names_nodes 0 hfills hnew (by omega), groupNames,
    List.range_eq_range']

end Template

/-- Between parentheses the fragment opens a group with the name. -/
def Regex.GivesName (fragment name : String) : Prop :=
  ∃ s, Parser.Fills fragment.toList s ∧ name ∈ s.names

namespace Pattern

open Regex.Parser (Fills State)

variable {text : String} {pattern : Pattern}

/-- The named values slot by slot. -/
theorem namedValues_eq_filterMap (regex : Regex) (found : Regex.Match) (path : String) (k : Nat)
    (slots : List Slot) :
    namedValues regex found path k slots = (slots.zipIdx k).filterMap fun x =>
      if x.1.name = "" then none
      else (regex.captured? found path (Template.groupName x.2)).map (x.1.name, ·) := by
  induction slots generalizing k with
  | nil => rfl
  | cons slot slots ih =>
    rw [namedValues, List.zipIdx_cons, List.filterMap_cons, ih (k + 1)]
    dsimp only
    split_ifs with hname
    · rfl
    · cases regex.captured? found path (Template.groupName k) <;> rfl

/-- In an accepted template the names of a template whose fragments fill their groups are those of
the groups around the fragments, and no fragment gives one of them. -/
theorem names_of_fills {template : Template} {root : Node} (progress : Slot → State)
    (hparse : Regex.Parser.parse? template.expression.toList = some root)
    (hfills : ∀ slot ∈ template.slots, Fills slot.kind.fragment.toList (progress slot)) :
    root.names.filter (· ∈ Template.groupNames template.slots.length) =
        Template.groupNames template.slots.length ∧
      ∀ slot ∈ template.slots, ∀ i < template.slots.length,
        Template.groupName i ∉ (progress slot).names := by
  obtain ⟨final, hrun, -⟩ := Regex.Parser.parse?_eq_some.mp hparse
  obtain ⟨groups, hextends⟩ := Regex.Parser.extends_of_run progress hfills hrun
  have hdistinct := (State.numbered_of_run hrun).distinct
  rw [hextends.names, List.append_nil, List.nodup_reverse] at hdistinct
  have hnew : ∀ slot ∈ template.slots, ∀ i < template.slots.length,
      Template.groupName i ∉ (progress slot).names :=
    fun slot hslot i hi => Template.groupName_not_mem hdistinct hslot (Nat.zero_le i) (by omega)
  rw [Regex.Parser.root_of_parse? progress hfills hparse]
  exact ⟨Template.filter_names_root hfills hnew, hnew⟩

/-- In every accepted template the groups are numbered in the order of their opening and no name is
given twice, and what is captured are the values of the groups named after the placeholders. If
every custom fragment is a group body or enclosed, then each placeholder has exactly one such group,
in the order of the placeholders, and no fragment gives the name of one. -/
theorem groups_of_compile (h : compile text = .ok pattern) :
    (pattern.regex.root.groups.map Prod.fst).Pairwise (· < ·) ∧ pattern.regex.root.names.Nodup ∧
    (∀ path, pattern.captures path = (pattern.regex.search path).map fun found =>
      pattern.slots.zipIdx.filterMap fun x =>
        if x.1.name = "" then none
        else (pattern.regex.captured? found path (Template.groupName x.2)).map (x.1.name, ·)) ∧
    ((∀ slot ∈ pattern.slots, ∀ fragment, slot.kind = .custom fragment →
        Regex.IsGroupBody fragment ∨ Regex.IsEnclosed fragment) →
      pattern.regex.root.names.filter (· ∈ Template.groupNames pattern.slots.length) =
          Template.groupNames pattern.slots.length ∧
        ∀ slot ∈ pattern.slots, ∀ name ∈ Template.groupNames pattern.slots.length,
          ¬ Regex.GivesName slot.kind.fragment name) := by
  classical
  obtain ⟨template, -, -, hparse⟩ := exists_template h
  obtain ⟨final, hrun, houter, -, -, hroot⟩ := Regex.Parser.parse?_eq_some.mp hparse
  have hnumbered := State.numbered_of_run hrun
  have hgroups : final.groups = pattern.regex.root.groups := by
    rw [State.groups_of_outer houter, hroot]
  refine ⟨hgroups ▸ hnumbered.increasing, ?_, fun path => ?_, fun hfragments => ?_⟩
  · rw [Node.names, ← hgroups]
    exact (List.nodup_reverse.mpr hnumbered.distinct).sublist hnumbered.named
  · unfold captures
    exact congrArg (Option.map · _) (funext fun found => namedValues_eq_filterMap _ _ _ _ _)
  · obtain ⟨template, hslots, hparse, progress, hprogress⟩ :=
      exists_progress_of_compile h hfragments
    rw [hslots]
    have hfills : ∀ slot ∈ template.slots, Fills slot.kind.fragment.toList (progress slot) :=
      fun slot hslot => (hprogress slot hslot).fills
    refine ⟨(names_of_fills progress hparse hfills).1, fun slot hslot name hname => ?_⟩
    rintro ⟨inner, hinner, hgiven⟩
    obtain ⟨i, hi, rfl⟩ := Template.mem_groupNames.mp hname
    -- what holds for some progress with every fragment holds for `inner` with this one
    have hupdate := (names_of_fills (Function.update progress slot inner) hparse ?_).2 slot hslot i hi
    · rw [Function.update_self] at hupdate
      exact hupdate hgiven
    · intro other hother
      by_cases heq : other = slot
      · subst heq
        rwa [Function.update_self]
      · rw [Function.update_of_ne heq]
        exact hfills other hother

/-- A group of a fragment stands between those of the placeholders. -/
theorem groups_of_compile_nested :
    ∃ pattern, compile "/[(a|b)+:x]/[i:id]" = .ok pattern ∧
      pattern.regex.root.names.filter (· ∈ Template.groupNames 2) = ["p0", "p1"] := by
  obtain ⟨pattern, hcompile, hslots⟩ := exists_of_compile "/[(a|b)+:x]/[i:id]" Pattern.slots
    (show _ = some ([⟨['/'], "(a|b)+", "x", false⟩, ⟨['/'], "i", "id", false⟩] : List Slot) by
      decide +kernel)
  have henclosed : Regex.IsEnclosed "(a|b)+" := by decide +kernel
  refine ⟨pattern, hcompile, ?_⟩
  have hnames := ((groups_of_compile hcompile).2.2.2 ?_).1
  · rw [hslots] at hnames
    exact hnames.trans (by decide +kernel)
  · intro slot hslot fragment hkind
    rw [hslots, List.mem_cons, List.mem_singleton] at hslot
    rcases hslot with rfl | rfl
    · obtain rfl : "(a|b)+" = fragment := PlaceholderKind.custom.inj hkind
      exact Or.inr henclosed
    · have hinteger : Slot.kind ⟨['/'], "i", "id", false⟩ = .integer := by decide
      rw [hinteger] at hkind
      simp at hkind

/-- A fragment that begins a comment hides what follows up to the end of the line: here the group of
the second placeholder. The fragment has a group of that name itself, so it is accepted, and what
that group captures is reported for the second placeholder. -/
theorem groups_of_compile_hidden :
    ∃ pattern, compile "[(?x)(?P<p1>c)#:x][b\n:y]" = .ok pattern ∧
      pattern.slots.map Slot.kind = [.custom "(?x)(?P<p1>c)#", .custom "b\n"] ∧
      pattern.regex.root.names = ["p0", "p1"] ∧
      pattern.captures "c" = some [("x", "c"), ("y", "c")] := by
  obtain ⟨pattern, hcompile, hfacts⟩ := exists_of_compile "[(?x)(?P<p1>c)#:x][b\n:y]"
    (fun pattern => (pattern.slots.map Slot.kind, pattern.regex.root.names, pattern.captures "c"))
    (show _ = some ([.custom "(?x)(?P<p1>c)#", .custom "b\n"], ["p0", "p1"],
      some [("x", "c"), ("y", "c")]) by decide +kernel)
  simp only [Prod.mk.injEq] at hfacts
  exact ⟨pattern, hcompile, hfacts⟩

end Pattern

end Routing
