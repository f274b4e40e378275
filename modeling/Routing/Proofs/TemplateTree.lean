import Routing.Proofs.Reader
import Routing.Template.Pattern

/-!
# Proofs: the tree of a template

If every fragment of a template fills a group, the expression of the template is read as it is
meant: its tree is a sequence of `^`, the literal characters, one item for each placeholder, and
`$`.
-/

namespace Routing

open Regex (Node)

namespace Regex.Parser

/-! ## Additions to the current alternative -/

/-- From the one state to the other items have been added to the current alternative, and groups
have been counted and named; the open groups around are the same. -/
structure State.Extends (s s' : State) (nodes : List Node) (groups : Nat) (names : List String) :
    Prop where
  flags : s'.level.flags = s.level.flags
  branches : s'.level.branches = s.level.branches
  outer : s'.outer = s.outer
  nodes : s'.level.pieces.map (·.node) = nodes.reverse ++ s.level.pieces.map (·.node)
  count : s'.count = s.count + groups
  names : s'.names = names.reverse ++ s.names

namespace State

variable {s s₁ s' : State} {nodes nodes' : List Node} {groups groups' : Nat}
  {names names' : List String}

theorem Extends.refl (s : State) : s.Extends s [] 0 [] :=
  ⟨rfl, rfl, rfl, rfl, rfl, rfl⟩

theorem Extends.trans (h : s.Extends s₁ nodes groups names)
    (h' : s₁.Extends s' nodes' groups' names') :
    s.Extends s' (nodes ++ nodes') (groups + groups') (names ++ names') where
  flags := h'.flags.trans h.flags
  branches := h'.branches.trans h.branches
  outer := h'.outer.trans h.outer
  nodes := by rw [h'.nodes, h.nodes, List.reverse_append, List.append_assoc]
  count := by rw [h'.count, h.count, Nat.add_assoc]
  names := by rw [h'.names, h.names, List.reverse_append, List.append_assoc]

theorem extends_push (s : State) (piece : Piece) : s.Extends (s.push piece) [piece.node] 0 [] :=
  ⟨rfl, rfl, rfl, rfl, rfl, rfl⟩

end State

/-- How items are joined depends on their trees alone. -/
theorem node_joined {join : List Node → Node} (hjoin : ∀ node, join [node] = node)
    (pieces : List Piece) : (joined join pieces).node = join (pieces.map (·.node)) := by
  match pieces with
  | [] => rfl
  | [piece] => exact (hjoin piece.node).symm
  | piece :: piece' :: pieces => rfl

theorem Level.node_branch (level : Level) :
    level.branch.node = Node.catAll (level.pieces.map (·.node)).reverse := by
  rw [Level.branch, node_joined fun _ => rfl, List.map_reverse]

theorem Level.node_body (level : Level) (h : level.branches = []) :
    level.body.node = Node.catAll (level.pieces.map (·.node)).reverse := by
  rw [Level.body, h, node_joined fun _ => rfl]
  exact level.node_branch

/-- The body of a group is the sequence of what has been added since its opening. -/
theorem State.Extends.node_body {s s' : State} {nodes : List Node} {groups : Nat}
    {names : List String} (h : s.Extends s' nodes groups names) (hpieces : s.level.pieces = [])
    (hbranches : s.level.branches = []) : s'.level.body.node = Node.catAll nodes := by
  rw [Level.node_body _ (h.branches.trans hbranches), h.nodes, hpieces, List.map_nil,
    List.append_nil, List.reverse_reverse]

/-! ## Literal text -/

variable {s s' final : State} {r : List Char} {fuel : Nat}

theorem readEscape_special {c : Char} (hc : isSpecial c = true) (r : List Char) :
    readEscape {} (c :: r) = some (.char c, r) := by
  simp only [isSpecial, List.mem_cons, List.not_mem_nil, or_false, decide_eq_true_eq] at hc
  rcases hc with rfl | rfl | rfl | rfl | rfl | rfl | rfl | rfl | rfl | rfl | rfl | rfl | rfl | rfl |
    rfl | rfl | rfl | rfl <;> rfl

theorem step_special (hflags : s.level.flags = {}) {c : Char} (hc : isSpecial c = true)
    (r : List Char) : s.step ('\\' :: c :: r) = some (s.pushNode (.char c), r) := by
  simp only [State.step, hflags, readEscape_special hc, Option.map_some]

theorem step_ordinary (hflags : s.level.flags = {}) {c : Char} (hc : isSpecial c = false)
    (r : List Char) : s.step (c :: r) = some (s.pushNode (.char c), r) := by
  simp only [State.step]
  split
  case h_13 => simp only [hflags, Option.map_some]; rfl
  all_goals exact absurd hc (by decide)

/-- Escaped text is read as itself. -/
theorem reads_escape (hflags : s.level.flags = {}) (text r : List Char) :
    ∃ s', Reads s (escape text ++ r) s' r ∧ s.Extends s' (text.map .char) 0 [] := by
  induction text generalizing s with
  | nil => exact ⟨s, .refl _ _, .refl s⟩
  | cons c text ih =>
    have hverbose : s.level.flags.verbose = false := by rw [hflags]
    obtain ⟨s', hreads, hextends⟩ := ih (s := s.pushNode (.char c)) hflags
    refine ⟨s', ?_, (s.extends_push _).trans hextends⟩
    by_cases hc : isSpecial c = true
    · rw [escape, if_pos hc]
      exact (Reads.single hverbose (step_special hflags hc _)).trans hreads
    · rw [escape, if_neg hc]
      exact (Reads.single hverbose (step_ordinary hflags (by simpa using hc) _)).trans hreads

/-! ## Group names -/

theorem toList_groupName (k : Nat) :
    (Template.groupName k).toList = 'p' :: Nat.toDigits 10 k := by
  rw [Template.groupName, String.toList_ofList]

theorem groupName_injective : Function.Injective Template.groupName := by
  intro k j h
  have hdigits := congrArg String.toList h
  rw [toList_groupName, toList_groupName, List.cons.injEq] at hdigits
  rw [← Nat.ofDigitChars_ten_toDigits (n := k), hdigits.2, Nat.ofDigitChars_ten_toDigits]

theorem readName_digits (digits r : List Char) (h : ∀ c ∈ digits, c.isDigit = true) :
    readName false (digits ++ '>' :: r) = some (digits, r) := by
  induction digits with
  | nil => rfl
  | cons c digits ih =>
    have hc := h c (by simp)
    have hclose : c ≠ '>' := by
      rintro rfl
      exact absurd hc (by decide)
    have hascii : c.toNat < 0x80 :=
      Nat.lt_of_le_of_lt (Char.isDigit_iff_toNat.mp hc).2 (by decide)
    have hname : isNameChar false c = true := by
      simp [isNameChar, Unicode.isNumeric, hascii, hc]
    rw [List.cons_append, readName, if_neg hclose, if_pos hname,
      ih fun d hd => h d (by simp [hd])]
    rfl

theorem readName_groupName (k : Nat) (r : List Char) :
    readName true ((Template.groupName k).toList ++ '>' :: r) =
      some ((Template.groupName k).toList, r) := by
  have hdigits := readName_digits (Nat.toDigits 10 k) r fun c hc =>
    Nat.isDigit_of_mem_toDigits (by decide) (by decide) hc
  rw [toList_groupName, List.cons_append, readName, if_neg (by decide), if_pos (by decide),
    hdigits]
  rfl

theorem step_openPlain (hflags : s.level.flags = {}) (r : List Char) :
    s.step ('(' :: '?' :: ':' :: r) = some (s.openGroup .plain {}, r) := by
  have hskip : skip s.level.flags ('?' :: ':' :: r) = '?' :: ':' :: r := by simp [skip, hflags]
  rw [State.step, State.readGroup_of_flags hskip (by decide), hflags]
  rfl

/-- At the beginning of the group that captures the value of the slot with number `k`. -/
def State.inCapture (s : State) (k : Nat) : State :=
  { s.openGroup (.capture (s.count + 1) (some (Template.groupName k))) {} with
    count := s.count + 1, names := Template.groupName k :: s.names }

/-- The opening of a capturing group that is named by the template: the name must be new. -/
theorem step_openCapture (hflags : s.level.flags = {}) (k : Nat) (r : List Char) :
    s.step ('(' :: '?' :: 'P' :: '<' :: ((Template.groupName k).toList ++ '>' :: r)) =
      if Template.groupName k ∈ s.names then none else some (s.inCapture k, r) := by
  have hskip : ∀ cs, skip s.level.flags cs = cs :=
    fun cs => skip_of_not_verbose (by rw [hflags]) cs
  rw [State.step, State.readGroup_of_python (hskip _), State.openNamed, readName_groupName,
    Option.bind_some]
  simp only [String.ofList_toList, State.openCapture, Option.any_some, List.contains_iff_mem]
  split_ifs
  · rfl
  · simp only [State.inCapture, State.openGroup, hflags, Option.map_some, Option.toList_some,
      List.singleton_append]

theorem run_openCapture (hflags : s.level.flags = {}) (k : Nat) {r : List Char}
    (hrun : s.run fuel ('(' :: '?' :: 'P' :: '<' :: ((Template.groupName k).toList ++ '>' :: r)) =
      some final) :
    ∃ fuel', (s.inCapture k).run fuel' r = some final := by
  obtain ⟨s₁, cs₁, fuel₁, hstep, hrun₁⟩ :=
    run_cons hrun (skip_of_not_verbose (by rw [hflags]) _)
  rw [step_openCapture hflags] at hstep
  split_ifs at hstep
  obtain ⟨rfl, rfl⟩ := Prod.mk.inj (Option.some.inj hstep)
  exact ⟨fuel₁, hrun₁⟩

end Regex.Parser

/-! ## Items -/

open Regex.Parser (Fills State)

namespace Slot

/-- The separator and the captured value of the slot with number `k`, given the number of its group
and the tree of its fragment. -/
def group (slot : Slot) (k index : Nat) (body : Node) : Node :=
  .catAll ((slot.separator.map (Node.char ∘ Separator.char)).toList ++
    [.group index (some (Template.groupName k)) body])

/-- The item for the slot, which may be left out if the slot is optional. -/
def node (slot : Slot) (k index : Nat) (body : Node) : Node :=
  if slot.optional then .repeat 0 (some 1) true (slot.group k index body)
  else slot.group k index body

/-- The literal characters of the slot and its item. -/
def nodes (slot : Slot) (k index : Nat) (body : Node) : List Node :=
  slot.literal.map .char ++ [slot.node k index body]

end Slot

namespace Template

/-- The literal characters and items for slots numbered from `k` on, when `count` groups stand in
front of them. The progress that the reader makes with a fragment on its own tells the tree of the
fragment and the number of groups in it. -/
def nodes (progress : Slot → State) (k count : Nat) : List Slot → List Node
  | [] => []
  | slot :: slots =>
    slot.nodes k (count + 1) ((progress slot).level.body.node.shift (count + 1)) ++
      nodes progress (k + 1) (count + 1 + (progress slot).count) slots

/-- The names of the groups for slots numbered from `k` on, in the order of their opening. -/
def names (progress : Slot → State) (k : Nat) : List Slot → List String
  | [] => []
  | slot :: slots => (groupName k :: (progress slot).names.reverse) ++ names progress (k + 1) slots

/-- The items between `^` and `$`. -/
def items (progress : Slot → State) (template : Template) : List Node :=
  nodes progress 0 0 template.slots ++ template.tail.map Node.char

/-- The tree of the whole template. -/
def root (progress : Slot → State) (template : Template) : Node :=
  (template.items progress ++ [Node.look .textEnd]).foldl Node.cat (Node.look .textStart)

end Template

namespace Regex.Parser

variable {s s' final : State} {r : List Char} {fuel : Nat}

/-- The separator in front of a placeholder. -/
theorem reads_separator (hflags : s.level.flags = {}) (slot : Slot) (r : List Char) :
    ∃ s', Reads s (((slot.separator.map Separator.fragment).getD "").toList ++ r) s' r ∧
      s.Extends s' ((slot.separator.map (Node.char ∘ Separator.char)).toList) 0 [] := by
  cases slot.separator with
  | none => exact ⟨s, .refl _ _, .refl s⟩
  | some separator =>
    have hfragment : separator.fragment.toList = escape [separator.char] := by
      cases separator <;> rfl
    obtain ⟨s', hreads, hextends⟩ := reads_escape hflags [separator.char] r
    exact ⟨s', by simpa [hfragment] using hreads, by simpa using hextends⟩

theorem repeated_optional (body : Node) :
    Node.repeated 0 (some 1) true body = .repeat 0 (some 1) true body := by
  unfold Node.repeated
  cases body.isSilent <;> rfl

/-- The state with its latest item made optional. -/
def State.optional (s : State) (piece : Piece) (pieces : List Piece) : State :=
  { s with level := { s.level with pieces :=
    { node := .repeat 0 (some 1) true piece.node, height := piece.height + 1 } :: pieces } }

theorem step_optional (hflags : s.level.flags = {}) {piece : Piece} {pieces : List Piece}
    (hpieces : s.level.pieces = piece :: pieces) (hrepeatable : piece.repeatable = true)
    (hr : r.head? ≠ some '?') : s.step ('?' :: r) = some (s.optional piece pieces, r) := by
  have hmarked : s.step ('?' :: r) = (s.repeatLast 0 (some 1) true).map (·, r) := by
    cases r with
    | nil => rfl
    | cons c r =>
      have hc : c ≠ '?' := by
        rintro rfl
        exact hr rfl
      simp [State.step, State.repeatMarked, hc]
  rw [hmarked, State.repeatLast, hpieces]
  simp [hrepeatable, hflags, State.optional, repeated_optional]

/-- The separator and the captured value are one item behind the parenthesis that closes their
group. -/
theorem exists_closeGroup {nodes : List Node} {groups : Nat} {names : List String}
    (h : (s.openGroup .plain {}).Extends s' nodes groups names) :
    ∃ closed piece, s'.closeGroup = some closed ∧
      closed.level.pieces = piece :: s.level.pieces ∧ piece.repeatable = true ∧
      s.Extends closed [Node.catAll nodes] groups names := by
  have hclose : s'.closeGroup =
      some ({ s' with level := s.level, outer := s.outer }.push
        (GroupKind.plain.close s'.level.body)) := by
    rw [State.closeGroup, h.outer]
    rfl
  refine ⟨_, _, hclose, rfl, rfl, rfl, rfl, rfl, ?_, h.count, h.names⟩
  rw [← h.node_body rfl rfl]
  rfl

/-- Behind a fragment that leaves no group of its own open, the parenthesis closes the group that
captures the value. -/
theorem exists_closeCapture (s : State) {inner : State} (houter : inner.outer = []) (k : Nat) :
    ∃ closed, (inner.nest (s.inCapture k)).closeGroup = some closed ∧
      s.Extends closed [.group (s.count + 1) (some (Template.groupName k))
        (inner.level.body.node.shift (s.count + 1))] (1 + inner.count)
        (Template.groupName k :: inner.names.reverse) := by
  have hclose : (inner.nest (s.inCapture k)).closeGroup =
      some ({ inner.nest (s.inCapture k) with level := s.level, outer := s.outer }.push
        ((GroupKind.capture (s.count + 1) (some (Template.groupName k))).close
          (inner.nest (s.inCapture k)).level.body)) := by
    simp [State.closeGroup, State.nest, houter, State.inCapture, State.openGroup]
  have hbody : (inner.nest (s.inCapture k)).level.body.node =
      inner.level.body.node.shift (s.count + 1) := by
    rw [State.nest, ← Level.shift_body]
    rfl
  refine ⟨_, hclose, rfl, rfl, rfl, ?_, ?_, ?_⟩
  · rw [← hbody]
    rfl
  · simp only [State.push, State.nest, State.inCapture]
    omega
  · simp [State.push, State.nest, State.inCapture]

theorem reads_close {closed : State} (hverbose : s.level.flags.verbose = false)
    (h : s.closeGroup = some closed) : Reads s (')' :: r) closed r := by
  refine Reads.single hverbose ?_
  rw [State.step, h]
  rfl

/-- The capturing group of the slot with number `k`, with `r` behind it. -/
def captureText (slot : Slot) (k : Nat) (r : List Char) : List Char :=
  '(' :: '?' :: 'P' :: '<' :: ((Template.groupName k).toList ++ '>' ::
    (slot.kind.fragment.toList ++ ')' :: r))

/-- The group around separator and capturing group, with `r` behind it. -/
def groupText (slot : Slot) (k : Nat) (r : List Char) : List Char :=
  '(' :: '?' :: ':' :: (((slot.separator.map Separator.fragment).getD "").toList ++
    captureText slot k (')' :: r))

theorem slotExpression_append (slot : Slot) (k : Nat) (r : List Char) :
    Template.slotExpression slot k ++ r =
      escape slot.literal ++ groupText slot k ((if slot.optional then ['?'] else []) ++ r) := by
  simp [Template.slotExpression, groupText, captureText]

/-- A capturing group whose fragment fills it is read as one item. -/
theorem run_capture (hflags : s.level.flags = {}) {slot : Slot} {k : Nat} {inner : State}
    (hfills : Fills slot.kind.fragment.toList inner)
    (hrun : s.run fuel (captureText slot k r) = some final) :
    ∃ s' fuel', State.run fuel' s' r = some final ∧
      s.Extends s' [.group (s.count + 1) (some (Template.groupName k))
        (inner.level.body.node.shift (s.count + 1))] (1 + inner.count)
        (Template.groupName k :: inner.names.reverse) := by
  obtain ⟨fuel₁, hopened⟩ := run_openCapture hflags k hrun
  obtain ⟨closed, fuel₂, hclosed, hbehind⟩ := hfills.run rfl hopened
  obtain ⟨-, -, -, houter⟩ := hfills
  obtain ⟨s', hclose, hextends⟩ := exists_closeCapture s houter k
  obtain rfl := Option.some.inj (hclosed.symm.trans hclose)
  exact ⟨closed, fuel₂, hbehind, hextends⟩

/-- The groups of a slot are read as one item, which a repetition may follow. -/
theorem run_group (hflags : s.level.flags = {}) {slot : Slot} {k : Nat} {inner : State}
    (hfills : Fills slot.kind.fragment.toList inner)
    (hrun : s.run fuel (groupText slot k r) = some final) :
    ∃ s' piece fuel', State.run fuel' s' r = some final ∧
      s'.level.pieces = piece :: s.level.pieces ∧ piece.repeatable = true ∧
      s.Extends s' [slot.group k (s.count + 1) (inner.level.body.node.shift (s.count + 1))]
        (1 + inner.count) (Template.groupName k :: inner.names.reverse) := by
  obtain ⟨fuel₁, hopened⟩ :=
    (Reads.single (by rw [hflags]) (step_openPlain hflags _)).run hrun
  obtain ⟨s₁, hseparator, hextends₁⟩ := reads_separator (s := s.openGroup .plain {}) rfl slot
    (captureText slot k (')' :: r))
  obtain ⟨fuel₂, hseparated⟩ := hseparator.run hopened
  obtain ⟨s₂, fuel₃, hcaptured, hextends₂⟩ := run_capture hextends₁.flags hfills hseparated
  rw [show s₁.count = s.count from hextends₁.count] at hextends₂
  have hextends := hextends₁.trans hextends₂
  obtain ⟨closed, piece, hclose, hpieces, hrepeatable, hclosed⟩ := exists_closeGroup hextends
  obtain ⟨fuel₄, hbehind⟩ := (reads_close (by rw [hextends.flags]; rfl) hclose).run hcaptured
  rw [Nat.zero_add] at hclosed
  exact ⟨closed, piece, fuel₄, hbehind, hpieces, hrepeatable, hclosed⟩

/-- Making the item of the slot optional if the slot is. -/
theorem exists_reads_optional (hflags : s.level.flags = {}) {s₁ : State} (slot : Slot) (k : Nat)
    {index groups : Nat} {body : Node} {names : List String} {piece : Piece}
    (hpieces : s₁.level.pieces = piece :: s.level.pieces) (hrepeatable : piece.repeatable = true)
    (hextends : s.Extends s₁ [slot.group k index body] groups names) (hr : r.head? ≠ some '?') :
    ∃ s', Reads s₁ ((if slot.optional then ['?'] else []) ++ r) s' r ∧
      s.Extends s' [slot.node k index body] groups names := by
  rw [Slot.node]
  cases hoptional : slot.optional with
  | false => exact ⟨s₁, .refl _ _, hextends⟩
  | true =>
    have hflags₁ := hextends.flags.trans hflags
    refine ⟨_, Reads.single (by rw [hflags₁]) (step_optional hflags₁ hpieces hrepeatable hr),
      hextends.flags, hextends.branches, hextends.outer, ?_, hextends.count, hextends.names⟩
    have hnodes := hextends.nodes
    rw [hpieces, List.map_cons, List.reverse_singleton, List.singleton_append] at hnodes
    rw [← (List.cons.inj hnodes).1]
    rfl

/-- The expression for a slot is read as the literal characters and the item of the slot. -/
theorem run_slot (hflags : s.level.flags = {}) {slot : Slot} {k : Nat} {inner : State}
    (hfills : Fills slot.kind.fragment.toList inner) (hr : r.head? ≠ some '?')
    (hrun : s.run fuel (Template.slotExpression slot k ++ r) = some final) :
    ∃ s' fuel', State.run fuel' s' r = some final ∧
      s.Extends s' (slot.nodes k (s.count + 1) (inner.level.body.node.shift (s.count + 1)))
        (1 + inner.count) (Template.groupName k :: inner.names.reverse) := by
  rw [slotExpression_append] at hrun
  obtain ⟨s₁, hliteral, hextends₁⟩ := reads_escape hflags slot.literal _
  obtain ⟨fuel₁, hbehind⟩ := hliteral.run hrun
  have hflags₁ := hextends₁.flags.trans hflags
  obtain ⟨s₂, piece, fuel₂, hgroup, hpieces, hrepeatable, hextends₂⟩ :=
    run_group hflags₁ hfills hbehind
  obtain ⟨s₃, hoptional, hextends₃⟩ :=
    exists_reads_optional hflags₁ slot k hpieces hrepeatable hextends₂ hr
  obtain ⟨fuel₃, hmarked⟩ := hoptional.run hgroup
  have hextends := hextends₁.trans hextends₃
  rw [show s₁.count = s.count from hextends₁.count, Nat.zero_add, List.nil_append] at hextends
  exact ⟨s₃, fuel₃, hmarked, hextends⟩

/-! ## The whole expression -/

theorem head?_escape_append (text : List Char) (hr : r.head? ≠ some '?') :
    (escape text ++ r).head? ≠ some '?' := by
  cases text with
  | nil => exact hr
  | cons c text =>
    rw [escape]
    split_ifs with hc
    · simp
    · simp only [List.cons_append, List.head?_cons, ne_eq, Option.some.injEq]
      rintro rfl
      exact hc rfl

theorem head?_slotExpressions_append (k : Nat) (slots : List Slot) (hr : r.head? ≠ some '?') :
    (Template.slotExpressions k slots ++ r).head? ≠ some '?' := by
  cases slots with
  | nil => exact hr
  | cons slot slots =>
    rw [Template.slotExpressions, List.append_assoc, slotExpression_append]
    exact head?_escape_append _ (by simp [groupText])

/-- The expressions for the slots are read one after the other. -/
theorem run_slots (progress : Slot → State) {slots : List Slot} {k : Nat}
    (hflags : s.level.flags = {})
    (hfills : ∀ slot ∈ slots, Fills slot.kind.fragment.toList (progress slot))
    (hr : r.head? ≠ some '?')
    (hrun : s.run fuel (Template.slotExpressions k slots ++ r) = some final) :
    ∃ s' fuel' groups, State.run fuel' s' r = some final ∧
      s.Extends s' (Template.nodes progress k s.count slots) groups
        (Template.names progress k slots) := by
  induction slots generalizing s k fuel with
  | nil => exact ⟨s, fuel, 0, hrun, .refl s⟩
  | cons slot slots ih =>
    rw [Template.slotExpressions, List.append_assoc] at hrun
    obtain ⟨s₁, fuel₁, hrun₁, hextends₁⟩ := run_slot hflags (hfills slot (by simp))
      (head?_slotExpressions_append (k + 1) slots hr) hrun
    obtain ⟨s₂, fuel₂, groups, hrun₂, hextends₂⟩ := ih (hextends₁.flags.trans hflags)
      (fun slot' hslot' => hfills slot' (by simp [hslot'])) hrun₁
    rw [hextends₁.count, ← Nat.add_assoc] at hextends₂
    exact ⟨s₂, fuel₂, _, hrun₂, hextends₁.trans hextends₂⟩

/-- A look at the beginning or the end of the text is one item. -/
theorem reads_look (condition : Regex.Look) (hflags : s.level.flags = {}) {c : Char}
    (h : s.step (c :: r) = some (s.pushNode (.look condition), r)) :
    ∃ s', Reads s (c :: r) s' r ∧ s.Extends s' [.look condition] 0 [] :=
  ⟨_, Reads.single (by rw [hflags]) h, s.extends_push _⟩

/-- Reading the expression of a template all whose fragments fill their groups adds the items of the
template between `^` and `$`. -/
theorem extends_of_run (progress : Slot → State) {template : Template}
    (hfills : ∀ slot ∈ template.slots, Fills slot.kind.fragment.toList (progress slot))
    (hrun : State.run fuel {} template.expression.toList = some final) :
    ∃ groups, ({} : State).Extends final
      (Node.look .textStart :: (template.items progress ++ [.look .textEnd])) groups
      (Template.names progress 0 template.slots) := by
  rw [Template.expression, String.toList_ofList, List.cons_append, List.cons_append,
    List.append_assoc] at hrun
  obtain ⟨s₁, hreads₁, hextends₁⟩ := reads_look .textStart (s := {}) (c := '^')
    (r := Template.slotExpressions 0 template.slots ++ (escape template.tail ++ ['$'])) rfl rfl
  obtain ⟨fuel₁, hrun₁⟩ := hreads₁.run hrun
  obtain ⟨s₂, fuel₂, groups, hrun₂, hextends₂⟩ := run_slots progress hextends₁.flags hfills
    (head?_escape_append _ (by simp)) hrun₁
  rw [show s₁.count = 0 from hextends₁.count] at hextends₂
  obtain ⟨s₃, hreads₃, hextends₃⟩ := reads_escape (hextends₂.flags.trans hextends₁.flags)
    template.tail ['$']
  obtain ⟨fuel₃, hrun₃⟩ := hreads₃.run hrun₂
  have hflags₃ := (hextends₃.flags.trans hextends₂.flags).trans hextends₁.flags
  obtain ⟨s₄, hreads₄, hextends₄⟩ := reads_look .textEnd (c := '$') (r := [])
    hflags₃ (by rw [State.step, hflags₃]; rfl)
  obtain ⟨fuel₄, hrun₄⟩ := hreads₄.run hrun₃
  obtain rfl := run_nil hrun₄
  have hextends := ((hextends₁.trans hextends₂).trans hextends₃).trans hextends₄
  exact ⟨_, by simpa [Template.items] using hextends⟩

/-- The tree of the expression for a template all whose fragments fill their groups. -/
theorem root_of_parse? (progress : Slot → State) {template : Template} {root : Node}
    (hfills : ∀ slot ∈ template.slots, Fills slot.kind.fragment.toList (progress slot))
    (h : parse? template.expression.toList = some root) :
    root = template.root progress := by
  obtain ⟨final, hrun, -, -, -, rfl⟩ := parse?_eq_some.mp h
  obtain ⟨groups, hextends⟩ := extends_of_run progress hfills hrun
  exact hextends.node_body rfl rfl

end Regex.Parser

namespace Pattern

variable {text : String} {pattern : Pattern}

/-- A compiled template is a template whose expression has been read. -/
theorem exists_template (h : compile text = .ok pattern) :
    ∃ template, Template.ofText text = .ok template ∧ pattern.slots = template.slots ∧
      Regex.Parser.parse? template.expression.toList = some pattern.regex.root := by
  obtain ⟨template, hread, hregex, hslots⟩ := compile_eq_ok_iff.mp h
  obtain ⟨root, hroot, hpattern⟩ := Option.map_eq_some_iff.mp hregex
  refine ⟨template, hread, hslots, ?_⟩
  rw [hroot, ← hpattern]

/-- The tree of a compiled template all whose fragments fill their groups. -/
theorem root_of_compile (progress : Slot → State) (h : compile text = .ok pattern) :
    ∃ template, Template.ofText text = .ok template ∧ pattern.slots = template.slots ∧
      ((∀ slot ∈ template.slots, Fills slot.kind.fragment.toList (progress slot)) →
        pattern.regex.root = template.root progress) := by
  obtain ⟨template, htemplate, hslots, hparse⟩ := exists_template h
  exact ⟨template, htemplate, hslots, fun hfills =>
    Regex.Parser.root_of_parse? progress hfills hparse⟩

/-- Facts that can be read off a compiled template. -/
theorem exists_of_compile {α : Type} (text : String) (f : Pattern → α) {value : α}
    (h : (compile text).toOption.map f = some value) :
    ∃ pattern, compile text = .ok pattern ∧ f pattern = value := by
  cases hcompile : compile text with
  | error defect => simp [hcompile, Except.toOption] at h
  | ok pattern => exact ⟨pattern, rfl, by simpa [hcompile, Except.toOption] using h⟩

end Pattern

end Routing
