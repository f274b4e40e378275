import Routing.Proofs.Anchoring
import Routing.Proofs.Enclosed

/-!
# Proofs: fragments of accepted templates

A template is checked by reading its expression as a whole. A fragment whose parentheses pair up is
thereby checked as well: it is read inside its group as it would be on its own, so if it were no
regular expression, the whole would not be one. The sizes of its tree are bounded by those of the
whole tree.
-/

namespace Routing

open Regex (Node)

/-- The parentheses of the fragment pair up, with those behind a backslash left aside, and no
character that begins a class or a comment stands in it. -/
def Regex.IsEnclosed (fragment : String) : Prop :=
  Parser.isEnclosed false 0 fragment.toList = true

instance Regex.decidableIsEnclosed (fragment : String) : Decidable (Regex.IsEnclosed fragment) :=
  inferInstanceAs (Decidable (Parser.isEnclosed false 0 fragment.toList = true))

namespace Regex.Parser

/-! ## Nesting of syntax -/

variable {n : Nat} {s s' : State} {cs rest : List Char}

/-- No item of the level is nested more deeply than `n`. -/
def Level.Within (n : Nat) (level : Level) : Prop :=
  ∀ piece ∈ level.pieces ++ level.branches, piece.height ≤ n

/-- No item of the open groups is nested more deeply than `n`. -/
def State.Within (n : Nat) (s : State) : Prop :=
  s.level.Within n ∧ ∀ around ∈ s.outer, around.2.Within n

theorem le_foldl_max {ns : List Nat} {k : Nat} (h : n ∈ ns ∨ n ≤ k) : n ≤ ns.foldl Nat.max k := by
  induction ns generalizing k with
  | nil => simpa using h
  | cons m ns ih =>
    refine ih ?_
    rcases h with h | h
    · rcases List.mem_cons.mp h with rfl | h
      · exact Or.inr (Nat.le_max_right k n)
      · exact Or.inl h
    · exact Or.inr (Nat.le_trans h (Nat.le_max_left k m))

/-- What is joined is nested at least as deeply as every part of it. -/
theorem height_le_joined {join : List Node → Node} {pieces : List Piece} {piece : Piece}
    (h : piece ∈ pieces) : piece.height ≤ (joined join pieces).height := by
  match pieces with
  | [only] =>
    rw [List.mem_singleton.mp h]
    exact Nat.le_refl _
  | first :: second :: pieces =>
    exact Nat.le_succ_of_le (le_foldl_max (Or.inl (List.mem_map_of_mem h)))

namespace Level

theorem height_le_branch {level : Level} {piece : Piece} (h : piece ∈ level.pieces) :
    piece.height ≤ level.branch.height :=
  height_le_joined (List.mem_reverse.mpr h)

theorem height_le_body {level : Level} {piece : Piece} (h : piece ∈ level.pieces ++ level.branches) :
    piece.height ≤ level.body.height := by
  rcases List.mem_append.mp h with h | h
  · exact Nat.le_trans (height_le_branch h)
      (height_le_joined (List.mem_reverse.mpr List.mem_cons_self))
  · exact height_le_joined (List.mem_reverse.mpr (List.mem_cons_of_mem _ h))

theorem within_of_body {level : Level} (h : level.body.height ≤ n) : level.Within n :=
  fun _ hpiece => Nat.le_trans (height_le_body hpiece) h

theorem Within.of_push {level : Level} {piece : Piece}
    (h : Within n { level with pieces := piece :: level.pieces }) : level.Within n :=
  fun _ hpiece => h _ (List.mem_cons_of_mem piece hpiece)

end Level

namespace State

theorem Within.of_push {piece : Piece} (h : (s.push piece).Within n) : s.Within n :=
  ⟨h.1.of_push, h.2⟩

theorem Within.of_nextBranch (h : s.nextBranch.Within n) : s.Within n := by
  refine ⟨fun piece hpiece => ?_, h.2⟩
  have hbranch : s.level.branch.height ≤ n := h.1 _ (by simp [nextBranch])
  rcases List.mem_append.mp hpiece with hpiece | hpiece
  · exact Nat.le_trans (Level.height_le_branch hpiece) hbranch
  · exact h.1 piece (by simp [nextBranch, hpiece])

theorem Within.of_openGroup {kind : GroupKind} {flags : Flags}
    (h : (s.openGroup kind flags).Within n) : s.Within n :=
  ⟨h.2 _ List.mem_cons_self, fun around haround => h.2 around (List.mem_cons_of_mem _ haround)⟩

theorem height_of_closeGroup (hclose : s.closeGroup = some s') (h : s'.Within n) :
    s.level.body.height < n := by
  unfold closeGroup at hclose
  split at hclose
  · simp at hclose
  · obtain rfl := Option.some.inj hclose
    exact h.1 _ List.mem_cons_self

theorem Within.of_closeGroup (hclose : s.closeGroup = some s') (h : s'.Within n) : s.Within n := by
  refine ⟨Level.within_of_body (Nat.le_of_lt (height_of_closeGroup hclose h)), ?_⟩
  unfold closeGroup at hclose
  split at hclose
  · simp at hclose
  · rename_i kind level outer houter
    obtain rfl := Option.some.inj hclose
    rw [houter]
    intro around haround
    rcases List.mem_cons.mp haround with rfl | haround
    · exact h.1.of_push
    · exact h.2 around haround

theorem Within.of_repeatLast {min : Nat} {max : Option Nat} {greedy : Bool}
    (hrepeat : s.repeatLast min max greedy = some s') (h : s'.Within n) : s.Within n := by
  unfold repeatLast at hrepeat
  split at hrepeat
  · simp at hrepeat
  · rename_i piece pieces hpieces
    split_ifs at hrepeat
    obtain rfl := Option.some.inj hrepeat
    refine ⟨fun other hother => ?_, h.2⟩
    rw [hpieces] at hother
    rcases List.mem_cons.mp hother with rfl | hother
    · exact Nat.le_of_succ_le (h.1 _ List.mem_cons_self)
    · exact h.1 other (List.mem_cons_of_mem _ hother)

/-- No token makes what has been read less nested. -/
theorem Within.of_moves (hmove : s.Moves s') (h : s'.Within n) : s.Within n := by
  cases hmove with
  | item => exact h.of_push
  | flags => exact ⟨h.1.of_push, h.2⟩
  | openPlain => exact h.of_openGroup
  | openCapture hopen =>
    unfold openCapture at hopen
    split_ifs at hopen
    obtain rfl := Option.some.inj hopen
    exact of_openGroup h
  | close hclose => exact h.of_closeGroup hclose
  | branch => exact h.of_nextBranch
  | again hrepeat => exact h.of_repeatLast hrepeat

/-- What has been read at the end bounds what has been read on the way. -/
theorem Within.of_run {fuel : Nat} {final : State} (hrun : s.run fuel cs = some final)
    (h : final.Within n) : s.Within n := by
  by_contra hs
  exact run_induction (P := fun s => ¬ s.Within n)
    (fun _ _ hmove hnot hwithin => hnot (hwithin.of_moves hmove)) hrun hs h

end State

/-! ## Fragments in their groups -/

variable {final inner base : State} {fragment r : List Char} {fuel : Nat}

theorem ReadsAlike.fills (h : ReadsAlike {} fragment s) : Fills fragment s := by
  obtain ⟨rest, hreads, hskip⟩ := h.inside
  exact ⟨rest, hreads, hskip, h.outer⟩

/-- An enclosed fragment that is read in some group is read on its own. -/
theorem exists_readsAlike (h : isEnclosed false 0 fragment = true) (hbase : base.level = {})
    (hrun : base.run fuel (fragment ++ ')' :: r) = some final) : ∃ s, ReadsAlike {} fragment s := by
  rcases sticks_or_readsAlike (s := {}) h with hsticks | halike
  · rw [← nest_empty hbase, hsticks] at hrun
    simp at hrun
  · exact halike

/-- The body of a group is nested less deeply than the whole expression. -/
theorem Fills.height_lt (h : Fills fragment inner) (hbase : base.level = {})
    (hrun : base.run fuel (fragment ++ ')' :: r) = some final) (hfinal : final.Within n) :
    inner.level.body.height < n := by
  obtain ⟨closed, fuel', hclosed, hrun'⟩ := h.run hbase hrun
  have hbody := State.height_of_closeGroup hclosed (hfinal.of_run hrun')
  rwa [State.nest, ← Level.shift_body] at hbody

/-- The reader of the expression for a slot comes to the fragment at the beginning of a group. -/
theorem run_fragment (hflags : s.level.flags = {}) {slot : Slot} {k : Nat}
    (hrun : s.run fuel (Template.slotExpression slot k ++ r) = some final) :
    ∃ base fuel' r', base.level = {} ∧
      State.run fuel' base (slot.kind.fragment.toList ++ ')' :: r') = some final := by
  rw [slotExpression_append] at hrun
  obtain ⟨s₁, hliteral, hextends₁⟩ := reads_escape hflags slot.literal _
  obtain ⟨fuel₁, hgroup⟩ := hliteral.run hrun
  have hflags₁ := hextends₁.flags.trans hflags
  obtain ⟨fuel₂, hopened⟩ :=
    (Reads.single (by rw [hflags₁]) (step_openPlain hflags₁ _)).run hgroup
  obtain ⟨s₂, hseparator, hextends₂⟩ := reads_separator (s := s₁.openGroup .plain {}) rfl slot _
  obtain ⟨fuel₃, hcapture⟩ := hseparator.run hopened
  obtain ⟨fuel₄, hfragment⟩ := run_openCapture hextends₂.flags k hcapture
  exact ⟨_, fuel₄, _, rfl, hfragment⟩

/-- The progress `inner` is that made with the fragment of the slot in its group, and if the
fragment is enclosed, also that made with it on its own. -/
structure Progress (n : Nat) (slot : Slot) (inner : State) : Prop where
  fills : Fills slot.kind.fragment.toList inner
  height : inner.level.body.height < n
  alone : IsEnclosed slot.kind.fragment → ReadsAlike {} slot.kind.fragment.toList inner

/-- In an expression that is read to its end, every fragment that is a group body or enclosed is
read inside its group. -/
theorem exists_progress {slots : List Slot} {k : Nat} (hflags : s.level.flags = {})
    (hslots : ∀ slot ∈ slots,
      (∃ inner, Fills slot.kind.fragment.toList inner) ∨ IsEnclosed slot.kind.fragment)
    (hr : r.head? ≠ some '?')
    (hrun : s.run fuel (Template.slotExpressions k slots ++ r) = some final)
    (hfinal : final.Within n) : ∀ slot ∈ slots, ∃ inner, Progress n slot inner := by
  induction slots generalizing s k fuel with
  | nil => simp
  | cons slot slots ih =>
    rw [Template.slotExpressions, List.append_assoc] at hrun
    have hprogress : ∃ inner, Progress n slot inner := by
      obtain ⟨base, fuel₁, r₁, hbase, hrun₁⟩ := run_fragment hflags hrun
      by_cases henclosed : IsEnclosed slot.kind.fragment
      · obtain ⟨inner, halike⟩ := exists_readsAlike henclosed hbase hrun₁
        exact ⟨inner, halike.fills, halike.fills.height_lt hbase hrun₁ hfinal, fun _ => halike⟩
      · obtain ⟨inner, hfills⟩ := (hslots slot (by simp)).resolve_right henclosed
        exact ⟨inner, hfills, hfills.height_lt hbase hrun₁ hfinal, fun h => absurd h henclosed⟩
    obtain ⟨inner, hinner⟩ := hprogress
    obtain ⟨s₁, fuel₁, hrun₁, hextends₁⟩ := run_slot hflags hinner.fills
      (head?_slotExpressions_append (k + 1) slots hr) hrun
    intro other hother
    rcases List.mem_cons.mp hother with rfl | hother
    · exact ⟨inner, hinner⟩
    · exact ih (hextends₁.flags.trans hflags)
        (fun slot' hslot' => hslots slot' (by simp [hslot'])) hrun₁ other hother

/-- The fragments of a template whose expression is accepted. -/
theorem exists_progress_of_parse? {template : Template} {root : Node}
    (h : parse? template.expression.toList = some root)
    (hslots : ∀ slot ∈ template.slots,
      (∃ inner, Fills slot.kind.fragment.toList inner) ∨ IsEnclosed slot.kind.fragment) :
    ∀ slot ∈ template.slots, ∃ inner, Progress maxHeight slot inner := by
  obtain ⟨final, hrun, houter, hheight, -⟩ := parse?_eq_some.mp h
  rw [Template.expression, String.toList_ofList, List.cons_append, List.cons_append,
    List.append_assoc] at hrun
  obtain ⟨s₁, hreads₁, hextends₁⟩ := reads_look .textStart (s := {}) (c := '^')
    (r := Template.slotExpressions 0 template.slots ++ (escape template.tail ++ ['$'])) rfl rfl
  obtain ⟨fuel₁, hrun₁⟩ := hreads₁.run hrun
  refine exists_progress hextends₁.flags hslots (head?_escape_append _ (by simp)) hrun₁ ?_
  exact ⟨Level.within_of_body hheight, by simp [houter]⟩

end Regex.Parser

/-! ## Sizes of the tree -/

namespace Regex.Node

theorem weight_shift (n : Nat) (node : Node) : (node.shift n).weight = node.weight := by
  induction node with
  | empty | set | look => rfl
  | group _ _ _ ih => simp only [shift, weight, ih]
  | cat _ _ ih₁ ih₂ | alt _ _ ih₁ ih₂ => simp only [shift, weight, ih₁, ih₂]
  | «repeat» min max _ _ ih => cases max <;> simp only [shift, weight, ih]

theorem weight_le_foldl_cat_first (first : Node) (nodes : List Node) :
    first.weight ≤ (nodes.foldl cat first).weight := by
  induction nodes generalizing first with
  | nil => exact Nat.le_refl _
  | cons second nodes ih => exact Nat.le_trans (Nat.le_add_right _ _) (ih (cat first second))

theorem weight_le_foldl_cat {nodes : List Node} {first node : Node} (h : node ∈ first :: nodes) :
    node.weight ≤ (nodes.foldl cat first).weight := by
  induction nodes generalizing first with
  | nil =>
    obtain rfl := List.mem_singleton.mp h
    exact Nat.le_refl _
  | cons second nodes ih =>
    by_cases hnode : node ∈ nodes
    · exact ih (List.mem_cons_of_mem _ hnode)
    · have hpair : node.weight ≤ (cat first second).weight := by
        simp only [List.mem_cons, hnode, or_false] at h
        rcases h with rfl | rfl
        · exact Nat.le_add_right _ _
        · exact Nat.le_add_left _ _
      exact Nat.le_trans hpair (weight_le_foldl_cat_first _ _)

end Regex.Node

theorem Slot.weight_le_node (slot : Slot) (k index : Nat) (body : Node) :
    body.weight ≤ (slot.node k index body).weight := by
  have hgroup : body.weight ≤ (slot.group k index body).weight := by
    refine Nat.le_trans (Nat.le_add_left _ 64) (m := (Node.group index
      (some (Template.groupName k)) body).weight) ?_
    unfold group Node.catAll
    cases slot.separator with
    | none => exact Nat.le_refl _
    | some separator => exact Node.weight_le_foldl_cat (by simp)
  unfold node
  split_ifs
  · simp only [Node.weight]
    omega
  · exact hgroup

namespace Template

/-- The tree of a fragment weighs no more than that of the template. -/
theorem weight_le_root (progress : Slot → Regex.Parser.State) {template : Template} {slot : Slot}
    (hslot : slot ∈ template.slots) :
    (progress slot).level.body.node.weight ≤ (template.root progress).weight := by
  have hnodes : ∀ {slots : List Slot} (k count : Nat), slot ∈ slots →
      ∃ node ∈ nodes progress k count slots,
        (progress slot).level.body.node.weight ≤ node.weight := by
    intro slots
    induction slots with
    | nil => simp
    | cons first slots ih =>
      intro k count hslot
      rw [nodes]
      rcases List.mem_cons.mp hslot with rfl | hslot
      · refine ⟨_, List.mem_append_left _ (List.mem_append_right _ (List.mem_singleton_self _)), ?_⟩
        have hweight := slot.weight_le_node k (count + 1)
          ((progress slot).level.body.node.shift (count + 1))
        rwa [Node.weight_shift] at hweight
      · obtain ⟨node, hnode, hle⟩ := ih (k + 1) (count + 1 + (progress first).count) hslot
        exact ⟨node, List.mem_append_right _ hnode, hle⟩
  obtain ⟨node, hnode, hle⟩ := hnodes 0 0 hslot
  refine Nat.le_trans hle (Node.weight_le_foldl_cat (List.mem_cons_of_mem _ ?_))
  exact List.mem_append_left _ (List.mem_append_left _ hnode)

end Template

/-! ## Fragments of compiled templates -/

namespace Pattern

open Regex.Parser (Progress ReadsAlike State)

variable {text : String} {pattern : Pattern}

/-- In an accepted template in which every custom fragment is a group body or enclosed, every
fragment is read inside its group. -/
theorem exists_progress_of_compile (h : compile text = .ok pattern)
    (hfragments : ∀ slot ∈ pattern.slots, ∀ fragment, slot.kind = .custom fragment →
      Regex.IsGroupBody fragment ∨ Regex.IsEnclosed fragment) :
    ∃ template : Template, pattern.slots = template.slots ∧
      Regex.Parser.parse? template.expression.toList = some pattern.regex.root ∧
      ∃ progress : Slot → State, ∀ slot ∈ template.slots,
        Progress Regex.Parser.maxHeight slot (progress slot) := by
  obtain ⟨template, -, hslots, hparse⟩ := exists_template h
  rw [hslots] at hfragments
  have hfills : ∀ slot ∈ template.slots,
      (∃ inner, Regex.Parser.Fills slot.kind.fragment.toList inner) ∨
        Regex.IsEnclosed slot.kind.fragment := by
    intro slot hslot
    by_cases henclosed : Regex.IsEnclosed slot.kind.fragment
    · exact Or.inr henclosed
    · refine Or.inl (exists_fills fun fragment hkind => ?_)
      rw [hkind] at henclosed
      exact (hfragments slot hslot fragment hkind).resolve_right henclosed
  have hprogress := Regex.Parser.exists_progress_of_parse? hparse hfills
  have : Nonempty State := ⟨{}⟩
  choose! progress hprogress using hprogress
  exact ⟨template, hslots, hparse, progress, hprogress⟩

/-- In an accepted template in which every custom fragment is a group body or enclosed, every
enclosed fragment is a regular expression on its own. -/
theorem isSome_ofText?_of_compile (h : compile text = .ok pattern)
    (hfragments : ∀ slot ∈ pattern.slots, ∀ fragment, slot.kind = .custom fragment →
      Regex.IsGroupBody fragment ∨ Regex.IsEnclosed fragment) :
    ∀ slot ∈ pattern.slots, ∀ fragment, slot.kind = .custom fragment →
      Regex.IsEnclosed fragment → (Regex.ofText? fragment).isSome = true := by
  intro slot hslot fragment hkind henclosed
  obtain ⟨template, hslots, hparse, progress, hprogress⟩ :=
    exists_progress_of_compile h hfragments
  rw [hslots] at hslot
  have halike := (hprogress slot hslot).alone (by rwa [hkind])
  rw [hkind] at halike
  -- the tree of the fragment is a part of the tree of the template, so the bounds on that one hold
  have hroot := Regex.Parser.root_of_parse? progress
    (fun slot hslot => (hprogress slot hslot).fills) hparse
  obtain ⟨_, -, -, -, hweight, hfinal⟩ := Regex.Parser.parse?_eq_some.mp hparse
  rw [hfinal, hroot] at hweight
  have hheight := (hprogress slot hslot).height
  have hparsed : Regex.Parser.parse? fragment.toList =
      some (progress slot).level.body.node :=
    Regex.Parser.parse?_eq_some.mpr ⟨progress slot, halike.alone _ (Nat.lt_succ_self _),
      halike.outer, Nat.le_of_lt hheight,
      Nat.le_trans (Template.weight_le_root progress hslot) hweight, rfl⟩
  rw [Regex.ofText?, hparsed]
  rfl

/-- Groups, escapes and alternatives in an enclosed fragment. -/
theorem isSome_ofText?_of_compile_file :
    ∃ pattern, compile "/[(a|b)+\\.x:file]/[en|fr:lang]" = .ok pattern ∧
      Regex.IsEnclosed "(a|b)+\\.x" ∧ (Regex.ofText? "(a|b)+\\.x").isSome = true := by
  obtain ⟨pattern, hcompile, hslots⟩ := exists_of_compile "/[(a|b)+\\.x:file]/[en|fr:lang]"
    Pattern.slots
    (show _ = some ([⟨['/'], "(a|b)+\\.x", "file", false⟩,
      ⟨['/'], "en|fr", "lang", false⟩] : List Slot) by decide +kernel)
  have hfile : Regex.IsEnclosed "(a|b)+\\.x" := by decide +kernel
  have hlang : Regex.IsEnclosed "en|fr" := by decide +kernel
  refine ⟨pattern, hcompile, hfile, isSome_ofText?_of_compile hcompile ?_
    ⟨['/'], "(a|b)+\\.x", "file", false⟩ (by simp [hslots]) _ rfl hfile⟩
  intro slot hslot fragment hkind
  rw [hslots, List.mem_cons, List.mem_singleton] at hslot
  rcases hslot with rfl | rfl
  · obtain rfl : "(a|b)+\\.x" = fragment := PlaceholderKind.custom.inj hkind
    exact Or.inr hfile
  · obtain rfl : "en|fr" = fragment := PlaceholderKind.custom.inj hkind
    exact Or.inr hlang

/-- A fragment whose parentheses do not pair up can borrow those around it: it is accepted in this
template, although it is no regular expression on its own. -/
theorem isSome_ofText?_of_compile_borrowed :
    ∃ pattern, compile "/[a)|(b:x]" = .ok pattern ∧
      pattern.slots.map Slot.kind = [.custom "a)|(b"] ∧ Regex.ofText? "a)|(b" = none := by
  obtain ⟨pattern, hcompile, hkinds⟩ := exists_of_compile "/[a)|(b:x]"
    (fun pattern => pattern.slots.map Slot.kind)
    (show _ = some [.custom "a)|(b"] by decide +kernel)
  exact ⟨pattern, hcompile, hkinds, by decide +kernel⟩

end Pattern

end Routing
