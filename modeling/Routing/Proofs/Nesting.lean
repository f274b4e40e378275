import Mathlib.Tactic.Common
import Routing.Regex.Parser

/-!
# Proofs: reading inside open groups

What the reader does within a group depends on the groups around it in two points only: the numbers
of the groups go on from theirs, and their names are taken. `State.nest` puts the progress that was
made on its own into the place of a group that has just been opened; a token that is read on its own
is read in that place too, unless it is a name that is taken.
-/

namespace Routing.Regex

/-! ## Groups with higher numbers -/

namespace Node

/-- The expression with the numbers of its groups raised. -/
def shift (n : Nat) : Node → Node
  | empty => empty
  | set chars => set chars
  | look condition => look condition
  | group index name body => group (index + n) name (shift n body)
  | cat first second => cat (shift n first) (shift n second)
  | alt first second => alt (shift n first) (shift n second)
  | .repeat min max greedy body => .repeat min max greedy (shift n body)

variable {n : Nat}

@[simp] theorem isSilent_shift (node : Node) : isSilent (shift n node) = isSilent node := by
  induction node with
  | empty | set | look => rfl
  | group _ _ _ ih => exact ih
  | cat _ _ ih₁ ih₂ | alt _ _ ih₁ ih₂ => simp only [shift, isSilent, ih₁, ih₂]
  | «repeat» _ _ _ _ ih => simp only [shift, isSilent, ih]

/-- Renumbering the groups in its body leaves the form of a repetition as it is. -/
theorem shift_repeated (min : Nat) (max : Option Nat) (greedy : Bool) (body : Node) :
    shift n (repeated min max greedy body) = repeated min max greedy (shift n body) := by
  unfold repeated
  simp only [isSilent_shift]
  split_ifs <;> rfl

theorem shift_catAll (nodes : List Node) :
    shift n (catAll nodes) = catAll (nodes.map (shift n)) := by
  cases nodes with
  | nil => rfl
  | cons node nodes =>
    show shift n (nodes.foldl cat node) = (nodes.map (shift n)).foldl cat (shift n node)
    induction nodes generalizing node with
    | nil => rfl
    | cons second nodes ih => exact ih (cat node second)

theorem shift_altAll (nodes : List Node) :
    shift n (altAll nodes) = altAll (nodes.map (shift n)) := by
  cases nodes with
  | nil => rfl
  | cons node nodes =>
    show shift n (nodes.foldl alt node) = (nodes.map (shift n)).foldl alt (shift n node)
    induction nodes generalizing node with
    | nil => rfl
    | cons second nodes ih => exact ih (alt node second)

/-- The expression holds no group because it is a set or a condition. -/
def IsAtom (node : Node) : Prop :=
  (∃ chars, node = set chars) ∨ ∃ condition, node = look condition

/-- Atoms have no groups to be numbered. -/
theorem IsAtom.shift_eq {node : Node} (h : node.IsAtom) : shift n node = node := by
  rcases h with ⟨chars, rfl⟩ | ⟨condition, rfl⟩ <;> rfl

end Node

namespace Parser

variable {n : Nat}

/-- The item with the numbers of its groups raised. -/
def Piece.shift (n : Nat) (piece : Piece) : Piece :=
  { piece with node := piece.node.shift n }

theorem shift_joined {join : List Node → Node}
    (hjoin : ∀ nodes, (join nodes).shift n = join (nodes.map (Node.shift n)))
    (pieces : List Piece) :
    (joined join pieces).shift n = joined join (pieces.map (Piece.shift n)) := by
  match pieces with
  | [] => simp [joined, Piece.shift, hjoin]
  | [piece] => rfl
  | piece :: piece' :: pieces =>
    simp only [joined, Piece.shift, hjoin, List.map_cons, List.map_map]
    rfl

namespace Level

/-- The level with the numbers of its groups raised. -/
def shift (n : Nat) (level : Level) : Level :=
  { level with
    pieces := level.pieces.map (Piece.shift n)
    branches := level.branches.map (Piece.shift n) }

theorem shift_branch (level : Level) : level.branch.shift n = (level.shift n).branch := by
  unfold branch
  rw [shift_joined Node.shift_catAll, List.map_reverse]
  rfl

/-- The body of a level is made of its pieces in the same way after they have been renumbered. -/
theorem shift_body (level : Level) : level.body.shift n = (level.shift n).body := by
  unfold body
  rw [shift_joined Node.shift_altAll, List.map_reverse, List.map_cons, shift_branch]
  rfl

end Level

namespace GroupKind

/-- The kind with its number raised. -/
def shift (n : Nat) : GroupKind → GroupKind
  | plain => plain
  | capture index name => capture (index + n) name

theorem shift_close (kind : GroupKind) (body : Piece) :
    (kind.close body).shift n = (kind.shift n).close (body.shift n) := by
  cases kind <;> rfl

end GroupKind

namespace State

/-- The progress `s`, made on its own, inside the group that has just been opened in `base`. -/
def nest (s base : State) : State where
  level := s.level.shift base.count
  outer := s.outer.map (fun open_ => (open_.1.shift base.count, open_.2.shift base.count)) ++
    base.outer
  count := s.count + base.count
  names := s.names ++ base.names

variable {s s' : State} {cs rest : List Char} (base : State)

@[simp] theorem flags_nest : (s.nest base).level.flags = s.level.flags := rfl

theorem nest_push (piece : Piece) :
    (s.push piece).nest base = (s.nest base).push (piece.shift base.count) := rfl

/-- An atom is pushed inside as it is outside. -/
theorem nest_pushNode {node : Node} (h : node.IsAtom) :
    (s.pushNode node).nest base = (s.nest base).pushNode node := by
  rw [pushNode, nest_push, Piece.shift, h.shift_eq]
  rfl

/-- A new branch begins inside as it does outside. -/
theorem nest_nextBranch : s.nextBranch.nest base = (s.nest base).nextBranch := by
  simp only [nextBranch, nest, Level.shift, List.map_cons, Level.shift_branch]
  rfl

/-- The state that is read next, inside the group, with what is left to read. -/
def nestRead (base : State) (read : Option (State × List Char)) : Option (State × List Char) :=
  read.map fun x => (x.1.nest base, x.2)

theorem nestRead_map {read : Option State} :
    nestRead base (read.map (·, rest)) = (read.map (·.nest base)).map (·, rest) := by
  cases read <;> rfl

/-- One of the names of the progress is taken in `base`. -/
def Clashes (base s : State) : Prop :=
  ∃ name ∈ s.names, name ∈ base.names

/-- A capturing group is opened there too, unless its name is taken. -/
theorem openCapture_nest (name : Option String) :
    (s.nest base).openCapture name = (s.openCapture name).map (·.nest base) ∨
      (s.nest base).openCapture name = none ∧
        ∀ s' ∈ s.openCapture name, base.Clashes s' := by
  unfold openCapture
  by_cases hb : name.any (s.nest base).names.contains = true
  · refine Or.inr ⟨if_pos hb, fun s' hs' => ?_⟩
    split_ifs at hs' with hs
    · simp at hs'
    · obtain rfl := Option.some.inj hs'
      cases name with
      | none => simp at hb
      | some name =>
        simp only [Option.any_some, List.contains_iff_mem, nest, List.mem_append] at hb hs
        exact ⟨name, List.mem_cons_self, hb.resolve_left hs⟩
  · have hs : ¬ name.any s.names.contains = true := by
      cases name with
      | none => simp
      | some name =>
        simp only [Option.any_some, List.contains_iff_mem, nest, List.mem_append, not_or] at hb ⊢
        exact hb.1
    rw [if_neg hs, if_neg hb]
    refine Or.inl (congrArg some ?_)
    simp only [nest, openGroup, Level.shift, GroupKind.shift, List.map_cons, List.map_nil,
      List.append_assoc, Nat.add_right_comm _ base.count 1, List.cons_append]

/-- Groups of the progress itself are closed there as on their own. -/
theorem closeGroup_nest (h : s.outer ≠ []) :
    (s.nest base).closeGroup = s.closeGroup.map (·.nest base) := by
  obtain ⟨⟨kind, level⟩, outer, houter⟩ := List.exists_cons_of_ne_nil h
  unfold closeGroup
  simp only [nest, houter, List.map_cons, List.cons_append, Option.map_some]
  rw [← Level.shift_body, ← GroupKind.shift_close]
  rfl

theorem repeatLast_nest (min : Nat) (max : Option Nat) (greedy : Bool) :
    (s.nest base).repeatLast min max greedy =
      (s.repeatLast min max greedy).map (·.nest base) := by
  unfold repeatLast
  cases hpieces : s.level.pieces with
  | nil => simp [nest, Level.shift, hpieces]
  | cons piece pieces =>
    by_cases hrepeatable : piece.repeatable = true
    · simp only [nest, Level.shift, hpieces, List.map_cons, Piece.shift, hrepeatable,
        Bool.not_true, Bool.false_eq_true, if_false, Option.map_some, Node.shift_repeated]
    · simp [nest, Level.shift, hpieces, Piece.shift, hrepeatable]

/-- The last piece is repeated inside as it is outside. -/
theorem repeatMarked_nest (min : Nat) (max : Option Nat) (cs : List Char) :
    (s.nest base).repeatMarked min max cs = nestRead base (s.repeatMarked min max cs) := by
  unfold repeatMarked
  split <;> rw [repeatLast_nest, nestRead_map]

/-- Flags are taken inside as they are outside. -/
theorem takeFlags_nest (flags : Flags) (given : List Flag) (stop : FlagsEnd) :
    (s.nest base).takeFlags flags given stop =
      (s.takeFlags flags given stop).map (·.nest base) := by
  cases stop with
  | group => rfl
  | here =>
    unfold takeFlags
    dsimp only
    split_ifs <;> rfl

/-- A group is opened inside as it is outside, unless the outside has its name already. -/
theorem map_openCapture_nest (name : Option String) :
    ((s.nest base).openCapture name).map (·, rest) =
        nestRead base ((s.openCapture name).map (·, rest)) ∨
      ((s.nest base).openCapture name).map (·, rest) = none ∧
        ∀ x ∈ (s.openCapture name).map (·, rest), base.Clashes x.1 := by
  rcases openCapture_nest base (s := s) name with h | ⟨h, hclash⟩
  · exact Or.inl (by rw [h, nestRead_map])
  · refine Or.inr ⟨by rw [h, Option.map_none], fun x hx => ?_⟩
    obtain ⟨opened, hopened, rfl⟩ := Option.map_eq_some_iff.mp hx
    exact hclash opened hopened

theorem openNamed_nest (cs : List Char) :
    (s.nest base).openNamed cs = nestRead base (s.openNamed cs) ∨
      (s.nest base).openNamed cs = none ∧ ∀ x ∈ s.openNamed cs, base.Clashes x.1 := by
  unfold openNamed
  cases readName true cs with
  | none => exact Or.inl rfl
  | some x => exact map_openCapture_nest base _

/-- A group begins inside as it does outside, but for names that the outside has already. -/
theorem readGroup_nest (cs : List Char) :
    (s.nest base).readGroup cs = nestRead base (s.readGroup cs) ∨
      (s.nest base).readGroup cs = none ∧ ∀ x ∈ s.readGroup cs, base.Clashes x.1 := by
  unfold readGroup
  rw [flags_nest]
  split
  · exact Or.inl rfl
  · exact Or.inl rfl
  · exact Or.inl rfl
  · exact Or.inl rfl
  · exact openNamed_nest base _
  · exact openNamed_nest base _
  · refine Or.inl ?_
    cases readFlags s.level.flags [] false false _ with
    | none => rfl
    | some x =>
      simp only [Option.bind_some]
      rw [takeFlags_nest, nestRead_map]
  · exact map_openCapture_nest base none

end State

/-! ## Tokens inside open groups -/

section Atoms

variable {flags : Flags} {cs rest : List Char} {node : Node}

theorem isAtom_of_complement? {negated : Bool} {set : CharSet}
    (h : flags.complement? negated set = some node) : node.IsAtom := by
  unfold Flags.complement? at h
  split_ifs at h <;> exact Or.inl ⟨_, (Option.some.inj h).symm⟩

theorem isAtom_of_dot? (h : flags.dot? = some node) : node.IsAtom := by
  unfold Flags.dot? at h
  split_ifs at h <;> exact Or.inl ⟨_, (Option.some.inj h).symm⟩

theorem isAtom_of_readClass (h : readClass flags cs = some (node, rest)) : node.IsAtom := by
  obtain ⟨x, -, h⟩ := Option.bind_eq_some_iff.mp h
  obtain ⟨node', hnode, heq⟩ := Option.bind_eq_some_iff.mp h
  obtain ⟨rfl, rfl⟩ := Prod.mk.inj (Option.some.inj heq)
  exact isAtom_of_complement? hnode

theorem isAtom_of_readProperty {negated : Bool}
    (h : readProperty flags negated cs = some (node, rest)) : node.IsAtom := by
  obtain ⟨⟨name, rest'⟩, -, h⟩ := Option.bind_eq_some_iff.mp h
  obtain ⟨node', hnode, heq⟩ := Option.map_eq_some_iff.mp h
  obtain ⟨rfl, rfl⟩ := Prod.mk.inj heq
  unfold propertyNode? at hnode
  split_ifs at hnode
  obtain ⟨table, -, rfl⟩ := Option.map_eq_some_iff.mp hnode
  exact Or.inl ⟨_, rfl⟩

/-- Escapes stand for atoms, as classes, properties and the dot do. -/
theorem isAtom_of_readEscape (h : readEscape flags cs = some (node, rest)) : node.IsAtom := by
  cases cs with
  | nil => simp [readEscape] at h
  | cons c cs =>
    simp only [readEscape] at h
    split at h
    case h_1 | h_2 | h_3 =>
      obtain ⟨x, -, heq⟩ := Option.map_eq_some_iff.mp h
      obtain ⟨rfl, rfl⟩ := Prod.mk.inj heq
      exact Or.inl ⟨_, rfl⟩
    case h_4 | h_5 => exact isAtom_of_readProperty h
    case h_6 | h_7 | h_8 | h_9 | h_10 | h_11 =>
      obtain ⟨x, hx, heq⟩ := Option.map_eq_some_iff.mp h
      obtain ⟨rfl, rfl⟩ := Prod.mk.inj heq
      exact isAtom_of_complement? hx
    case h_12 | h_13 | h_14 | h_15 | h_16 | h_17 =>
      obtain ⟨rfl, rfl⟩ := Prod.mk.inj (Option.some.inj h)
      exact Or.inl ⟨_, rfl⟩
    case h_20 =>
      obtain ⟨x, -, heq⟩ := Option.map_eq_some_iff.mp h
      obtain ⟨rfl, rfl⟩ := Prod.mk.inj heq
      exact Or.inr ⟨_, rfl⟩
    case h_24 =>
      split_ifs at h
      obtain ⟨rfl, rfl⟩ := Prod.mk.inj (Option.some.inj h)
      exact Or.inl ⟨_, rfl⟩
    all_goals
      obtain ⟨rfl, rfl⟩ := Prod.mk.inj (Option.some.inj h)
      exact Or.inr ⟨_, rfl⟩

end Atoms

namespace State

variable {s s' : State} {cs rest : List Char} (base : State)

/-- A token that makes one item, which holds no group. -/
theorem pushNode_nest {read : Option (Node × List Char)}
    (hread : ∀ node rest, read = some (node, rest) → node.IsAtom) :
    (read.map fun x => ((s.nest base).pushNode x.1, x.2)) =
      nestRead base (read.map fun x => (s.pushNode x.1, x.2)) := by
  cases read with
  | none => rfl
  | some x =>
    exact congrArg (fun s => some (s, x.2)) (nest_pushNode base (hread x.1 x.2 rfl)).symm

/-- A token that does not close the group is read inside it as on its own, unless it gives a name
that is taken there. -/
theorem step_nest_eq (hclose : s.outer = [] → cs.head? ≠ some ')') :
    (s.nest base).step cs = nestRead base (s.step cs) ∨
      (s.nest base).step cs = none ∧ ∀ x ∈ s.step cs, base.Clashes x.1 := by
  cases cs with
  | nil => exact Or.inl rfl
  | cons c cs =>
    simp only [step, flags_nest]
    -- the kinds of tokens in the order in which `step` tells them apart: groups, alternatives,
    -- repetitions, and then those that give one node
    split
    case h_1 => exact readGroup_nest base cs
    case h_2 =>
      have houter : s.outer ≠ [] := fun houter => hclose houter rfl
      exact Or.inl (by rw [closeGroup_nest base houter, nestRead_map])
    case h_3 => exact Or.inl (by rw [← nest_nextBranch]; rfl)
    case h_4 | h_5 | h_6 => exact Or.inl (repeatMarked_nest base _ _ cs)
    case h_7 =>
      refine Or.inl ?_
      cases readBraced s.level.flags.verbose false cs with
      | none => rfl
      | some x =>
        simp only [Option.bind_eq_bind, Option.bind_some]
        cases readCounts? x.1 with
        | none => rfl
        | some counts => exact repeatMarked_nest base _ _ _
    case h_8 =>
      refine Or.inl ?_
      cases hclass : readClass s.level.flags cs with
      | none => rfl
      | some x =>
        refine congrArg some ?_
        dsimp only
        rw [nest_push, Piece.shift, (isAtom_of_readClass hclass).shift_eq]
    case h_9 => exact Or.inl (pushNode_nest base fun _ _ => isAtom_of_readEscape)
    case h_10 =>
      refine Or.inl (pushNode_nest base fun node rest hdot => ?_)
      obtain ⟨node', hnode, heq⟩ := Option.map_eq_some_iff.mp hdot
      obtain ⟨rfl, rfl⟩ := Prod.mk.inj heq
      exact isAtom_of_dot? hnode
    case h_11 | h_12 =>
      refine Or.inl (pushNode_nest base fun node rest hlook => ?_)
      obtain ⟨rfl, rfl⟩ := Prod.mk.inj (Option.some.inj hlook)
      exact Or.inr ⟨_, rfl⟩
    case h_13 =>
      refine Or.inl (pushNode_nest base fun node rest hliteral => ?_)
      obtain ⟨rfl, rfl⟩ := Prod.mk.inj (Option.some.inj hliteral)
      exact Or.inl ⟨_, rfl⟩

/-- A token that is read on its own is read inside open groups too, unless it is a name that is
taken there. -/
theorem step_nest_or (h : s.step cs = some (s', rest)) :
    (s.nest base).step cs = some (s'.nest base, rest) ∨
      (s.nest base).step cs = none ∧ base.Clashes s' := by
  have hclose : s.outer = [] → cs.head? ≠ some ')' := by
    intro houter hhead
    obtain ⟨cs, rfl⟩ := List.head?_eq_some_iff.mp hhead
    simp [step, closeGroup, houter] at h
  have hnest := step_nest_eq base hclose
  rw [h] at hnest
  exact hnest.imp_right fun hnone => ⟨hnone.1, hnone.2 _ rfl⟩

/-- One step inside is the step outside, or it fails over a name. -/
theorem step_nest (h : s.step cs = some (s', rest)) :
    (s.nest base).step cs = some (s'.nest base, rest) ∨ (s.nest base).step cs = none :=
  (step_nest_or base h).imp_right And.left

/-- A token after which no name has been given is read inside open groups as on its own. -/
theorem step_nest_of_unnamed (h : s.step cs = some (s', rest)) (hnames : s'.names = []) :
    (s.nest base).step cs = some (s'.nest base, rest) := by
  refine (step_nest_or base h).resolve_right fun hnone => ?_
  obtain ⟨name, hname, -⟩ := hnone.2
  simp [hnames] at hname

/-- A token that is refused on its own is refused inside open groups too, unless it closes a group
of which only the end has been read. -/
theorem step_nest_none (h : s.step cs = none) (hclose : s.outer = [] → cs.head? ≠ some ')') :
    (s.nest base).step cs = none := by
  have hnest := step_nest_eq base hclose
  rw [h] at hnest
  exact hnest.elim id And.left

end State

end Parser

end Routing.Regex
