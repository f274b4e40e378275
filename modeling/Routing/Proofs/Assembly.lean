import Routing.Proofs.Consumption
import Routing.Proofs.Groups

/-!
# Proofs: assembling the expression of a template

A fragment that stands alone is read on its own to its end, gives no group a name, and skips no
blanks. It is then read in the same way as the value of a placeholder. So the expression of a
template all whose fragments stand alone can be read to its end, and its tree is that of the
template; only its size may still be refused.
-/

namespace Routing.Regex.Parser

variable {s s' final base : State} {cs rest r : List Char} {fuel : Nat}

/-! ## Reading whatever the size -/

/-- The item that is read from the text, whatever its size. -/
def read? (cs : List Char) : Option Piece :=
  (State.run (cs.length + 1) {} cs).bind State.result

/-- Neither the nesting of the syntax nor the weight of the tree is beyond its limit. -/
def Piece.Fits (piece : Piece) : Prop :=
  piece.height ≤ maxHeight ∧ piece.node.weight ≤ maxWeight

instance Piece.decidableFits (piece : Piece) : Decidable piece.Fits :=
  inferInstanceAs (Decidable (_ ∧ _))

/-- The limits are what `parse?` adds to reading. -/
theorem parse?_eq_bind (cs : List Char) :
    parse? cs = (read? cs).bind fun piece => if piece.Fits then some piece.node else none := by
  unfold parse? read?
  cases State.run (cs.length + 1) {} cs with
  | none => rfl
  | some final =>
    simp only [Option.bind_eq_bind, Option.bind_some]
    refine congrArg _ (funext fun piece => ?_)
    by_cases h : piece.Fits
    · rw [if_pos h, if_pos (by simpa [Piece.Fits] using h)]
    · rw [if_neg h, if_neg (by simpa [Piece.Fits] using h)]

theorem read?_of_reads (h : Reads {} cs final []) (houter : final.outer = []) :
    read? cs = some final.level.body := by
  rw [read?, h.run_eq (Nat.lt_succ_self _), Option.bind_some, State.result, houter]
  rfl

/-! ## Names -/

/-- Names are only added. -/
theorem State.Moves.names_suffix (h : s.Moves s') : s.names <:+ s'.names := by
  cases h with
  | item | flags | openPlain | branch => exact List.suffix_refl s.names
  | openCapture hopen =>
    obtain ⟨-, -, hnames, -⟩ := State.groups_openCapture hopen
    rw [hnames]
    exact List.suffix_append _ _
  | close hclose =>
    unfold State.closeGroup at hclose
    split at hclose
    · simp at hclose
    · obtain rfl := Option.some.inj hclose
      exact List.suffix_refl s.names
  | again hrepeat =>
    obtain ⟨-, -, hnames⟩ := State.groups_repeatLast hrepeat
    exact hnames ▸ List.suffix_refl s.names

theorem Reads.names_eq_nil (h : Reads s cs s' rest) (hnames : s'.names = []) : s.names = [] := by
  have hsuffix : s.names <:+ s'.names :=
    h.induction (P := fun s' => s.names <:+ s'.names)
      (fun _ _ hmove hs => hs.trans hmove.names_suffix) (List.suffix_refl s.names)
  rw [hnames] at hsuffix
  exact List.suffix_nil.mp hsuffix

/-- What gives no name is read inside open groups as on its own. -/
theorem Reads.nest (h : Reads s cs s' rest) (hnames : s'.names = []) (base : State) :
    Reads (s.nest base) cs (s'.nest base) rest := by
  induction h with
  | refl => exact .refl _ _
  | token hskip hstep h ih =>
    have hnest := State.step_nest_of_unnamed base hstep (h.names_eq_nil hnames)
    exact .token (by rwa [State.flags_nest]) hnest (ih hnames)

/-! ## Fragments that stand alone -/

/-- The fragment is read to its end, whatever group it is put into. The progress made with it on
its own is `inner`. -/
structure StandsAlone (fragment : List Char) (inner : State) : Prop where
  outer : inner.outer = []
  names : inner.names = []
  verbose : inner.level.flags.verbose = false
  closes : ∀ r, Reads {} (fragment ++ ')' :: r) inner (')' :: r)

/-- Where no blanks are skipped, what is read to its end is read up to a parenthesis behind it. -/
theorem reads_of_run (hrun : s.run fuel cs = some final)
    (hverbose : ∀ s' rest, Reads s cs s' rest → s'.level.flags.verbose = false) (r : List Char) :
    Reads s (cs ++ ')' :: r) final (')' :: r) := by
  induction fuel generalizing s cs with
  | zero => simp [State.run] at hrun
  | succ fuel ih =>
    have hs : s.level.flags.verbose = false := hverbose s cs (.refl s cs)
    cases cs with
    | nil =>
      obtain rfl := run_nil hrun
      exact .refl _ _
    | cons c cs =>
      have hskip : skip s.level.flags (c :: cs) = c :: cs := skip_of_not_verbose hs _
      rw [State.run, hskip] at hrun
      obtain ⟨⟨s₁, cs₁⟩, hstep, hrun₁⟩ := Option.bind_eq_some_iff.mp hrun
      -- the token may have been read up to the end of the text; a parenthesis is never part of it
      have hbehind : s.step (c :: cs ++ ')' :: r) = some (s₁, cs₁ ++ ')' :: r) :=
        State.step_append hstep (Or.inr ⟨hs, rfl⟩)
      have hlater : Reads s₁ (cs₁ ++ ')' :: r) final (')' :: r) :=
        ih hrun₁ fun s' rest h => hverbose s' rest (.token hskip hstep h)
      exact .token (skip_of_not_verbose hs _) hbehind hlater

/-- A fragment that stands alone is the body of every group. -/
theorem StandsAlone.reads_nest {fragment : List Char} {inner : State}
    (h : StandsAlone fragment inner) (hbase : base.level = {}) (r : List Char) :
    Reads base (fragment ++ ')' :: r) (inner.nest base) (')' :: r) := by
  have hnest := (h.closes r).nest h.names base
  rwa [nest_empty hbase] at hnest

/-! ## Slots -/

/-- The group of a fragment that stands alone is read as one item if its name is new. -/
theorem reads_capture (hflags : s.level.flags = {}) {slot : Slot} {k : Nat} {inner : State}
    (halone : StandsAlone slot.kind.fragment.toList inner)
    (hnew : Template.groupName k ∉ s.names) (r : List Char) :
    ∃ s', Reads s (captureText slot k r) s' r ∧
      s.Extends s' [.group (s.count + 1) (some (Template.groupName k))
        (inner.level.body.node.shift (s.count + 1))] (1 + inner.count)
        (Template.groupName k :: inner.names.reverse) := by
  have hopen : Reads s (captureText slot k r) (s.inCapture k)
      (slot.kind.fragment.toList ++ ')' :: r) := by
    refine Reads.single (by rw [hflags]) ?_
    rw [step_openCapture hflags, if_neg hnew]
  have hfragment : Reads (s.inCapture k) (slot.kind.fragment.toList ++ ')' :: r)
      (inner.nest (s.inCapture k)) (')' :: r) := halone.reads_nest rfl r
  obtain ⟨closed, hclose, hextends⟩ := exists_closeCapture s halone.outer k
  exact ⟨closed, hopen.trans (hfragment.trans (reads_close halone.verbose hclose)), hextends⟩

theorem reads_group (hflags : s.level.flags = {}) {slot : Slot} {k : Nat} {inner : State}
    (halone : StandsAlone slot.kind.fragment.toList inner)
    (hnew : Template.groupName k ∉ s.names) (r : List Char) :
    ∃ s' piece, Reads s (groupText slot k r) s' r ∧
      s'.level.pieces = piece :: s.level.pieces ∧ piece.repeatable = true ∧
      s.Extends s' [slot.group k (s.count + 1) (inner.level.body.node.shift (s.count + 1))]
        (1 + inner.count) (Template.groupName k :: inner.names.reverse) := by
  have hopen : Reads s (groupText slot k r) (s.openGroup .plain {}) _ :=
    Reads.single (by rw [hflags]) (step_openPlain hflags _)
  obtain ⟨s₁, hseparator, hextends₁⟩ := reads_separator (s := s.openGroup .plain {}) rfl slot
    (captureText slot k (')' :: r))
  have hnew₁ : Template.groupName k ∉ s₁.names := by
    rw [hextends₁.names]
    exact hnew
  obtain ⟨s₂, hcapture, hextends₂⟩ := reads_capture hextends₁.flags halone hnew₁ (')' :: r)
  rw [show s₁.count = s.count from hextends₁.count] at hextends₂
  have hextends := hextends₁.trans hextends₂
  obtain ⟨closed, piece, hclose, hpieces, hrepeatable, hclosed⟩ := exists_closeGroup hextends
  have hbehind : Reads s₂ (')' :: r) closed r := by
    refine reads_close ?_ hclose
    rw [hextends.flags]
    rfl
  rw [Nat.zero_add] at hclosed
  exact ⟨closed, piece, hopen.trans (hseparator.trans (hcapture.trans hbehind)), hpieces,
    hrepeatable, hclosed⟩

/-- The expression for a slot is read as the literal characters and the item of the slot. -/
theorem reads_slot (hflags : s.level.flags = {}) {slot : Slot} {k : Nat} {inner : State}
    (halone : StandsAlone slot.kind.fragment.toList inner)
    (hnew : Template.groupName k ∉ s.names) (hr : r.head? ≠ some '?') :
    ∃ s', Reads s (Template.slotExpression slot k ++ r) s' r ∧
      s.Extends s' (slot.nodes k (s.count + 1) (inner.level.body.node.shift (s.count + 1)))
        (1 + inner.count) (Template.groupName k :: inner.names.reverse) := by
  rw [slotExpression_append]
  obtain ⟨s₁, hliteral, hextends₁⟩ := reads_escape hflags slot.literal
    (groupText slot k ((if slot.optional then ['?'] else []) ++ r))
  have hflags₁ : s₁.level.flags = {} := hextends₁.flags.trans hflags
  have hnew₁ : Template.groupName k ∉ s₁.names := by
    rw [hextends₁.names]
    exact hnew
  obtain ⟨s₂, piece, hgroup, hpieces, hrepeatable, hextends₂⟩ :=
    reads_group hflags₁ halone hnew₁ ((if slot.optional then ['?'] else []) ++ r)
  obtain ⟨s₃, hoptional, hextends₃⟩ :=
    exists_reads_optional hflags₁ slot k hpieces hrepeatable hextends₂ hr
  have hextends := hextends₁.trans hextends₃
  rw [show s₁.count = s.count from hextends₁.count, Nat.zero_add, List.nil_append] at hextends
  exact ⟨s₃, hliteral.trans (hgroup.trans hoptional), hextends⟩

/-- The expressions for the slots are read one after the other. The names of their groups are new
because slots further behind have greater numbers. -/
theorem reads_slots (progress : Slot → State) {slots : List Slot} {k : Nat}
    (hflags : s.level.flags = {})
    (halone : ∀ slot ∈ slots, StandsAlone slot.kind.fragment.toList (progress slot))
    (hnew : ∀ i, k ≤ i → Template.groupName i ∉ s.names) (hr : r.head? ≠ some '?') :
    ∃ s' groups, Reads s (Template.slotExpressions k slots ++ r) s' r ∧
      s.Extends s' (Template.nodes progress k s.count slots) groups
        (Template.names progress k slots) := by
  induction slots generalizing s k with
  | nil => exact ⟨s, 0, .refl _ _, .refl s⟩
  | cons slot slots ih =>
    have hfirst : StandsAlone slot.kind.fragment.toList (progress slot) := halone slot (by simp)
    rw [Template.slotExpressions, List.append_assoc]
    obtain ⟨s₁, hslot, hextends₁⟩ := reads_slot hflags hfirst (hnew k (Nat.le_refl k))
      (head?_slotExpressions_append (k + 1) slots hr)
    have hnew₁ : ∀ i, k + 1 ≤ i → Template.groupName i ∉ s₁.names := by
      intro i hi hmem
      rw [hextends₁.names, hfirst.names] at hmem
      rcases List.mem_cons.mp hmem with heq | hmem
      · have hik : i = k := groupName_injective heq
        omega
      · exact hnew i (by omega) hmem
    obtain ⟨s₂, groups, hslots, hextends₂⟩ := ih (hextends₁.flags.trans hflags)
      (fun slot' hslot' => halone slot' (by simp [hslot'])) hnew₁
    rw [hextends₁.count, ← Nat.add_assoc] at hextends₂
    exact ⟨s₂, _, hslot.trans hslots, hextends₁.trans hextends₂⟩

/-! ## The whole expression -/

/-- The expression of a template all whose fragments stand alone is read to its end, and what is
read is the tree of the template. -/
theorem read?_expression (progress : Slot → State) {template : Template}
    (halone : ∀ slot ∈ template.slots, StandsAlone slot.kind.fragment.toList (progress slot)) :
    ∃ piece, read? template.expression.toList = some piece ∧
      piece.node = template.root progress := by
  have htext : template.expression.toList =
      '^' :: (Template.slotExpressions 0 template.slots ++ (escape template.tail ++ ['$'])) := by
    rw [Template.expression, String.toList_ofList, List.cons_append, List.cons_append,
      List.append_assoc]
  obtain ⟨s₁, hstart, hextends₁⟩ := reads_look .textStart (s := {}) (c := '^')
    (r := Template.slotExpressions 0 template.slots ++ (escape template.tail ++ ['$'])) rfl rfl
  have hnew : ∀ i, 0 ≤ i → Template.groupName i ∉ s₁.names := by
    intro i _
    rw [hextends₁.names]
    exact List.not_mem_nil
  obtain ⟨s₂, groups, hslots, hextends₂⟩ := reads_slots progress hextends₁.flags halone hnew
    (head?_escape_append template.tail (r := ['$']) (by simp))
  rw [show s₁.count = 0 from hextends₁.count] at hextends₂
  obtain ⟨s₃, htail, hextends₃⟩ := reads_escape (hextends₂.flags.trans hextends₁.flags)
    template.tail ['$']
  have hflags₃ : s₃.level.flags = {} :=
    (hextends₃.flags.trans hextends₂.flags).trans hextends₁.flags
  obtain ⟨s₄, hend, hextends₄⟩ := reads_look .textEnd (c := '$') (r := [])
    hflags₃ (by rw [State.step, hflags₃]; rfl)
  have hreads : Reads {} template.expression.toList s₄ [] := by
    rw [htext]
    exact hstart.trans (hslots.trans (htail.trans hend))
  have hextends := ((hextends₁.trans hextends₂).trans hextends₃).trans hextends₄
  refine ⟨_, read?_of_reads hreads hextends.outer, ?_⟩
  rw [hextends.node_body rfl rfl, Template.root, Template.items]
  simp only [List.append_assoc]
  rfl

end Routing.Regex.Parser
