import Routing.Proofs.Lookahead
import Routing.Proofs.Nesting

/-!
# Proofs: reading token by token

`State.run` reads a whole text with fuel. `Reads` is the same walk without fuel and with a free end,
so that the reading of a text can be put together from the readings of its parts. A fragment that
`Fills` a group is read in every group as it is read on its own.
-/

namespace Routing.Regex.Parser

/-- Token by token the reader comes from one state, with some text ahead, to another one. -/
inductive Reads : State → List Char → State → List Char → Prop where
  /-- No token is read. -/
  | refl (s : State) (cs : List Char) : Reads s cs s cs
  /-- A token is read, and further ones after it. -/
  | token {s s₁ s₂ : State} {cs ahead cs₁ cs₂ : List Char} {c : Char}
      (hskip : skip s.level.flags cs = c :: ahead) (hstep : s.step (c :: ahead) = some (s₁, cs₁))
      (h : Reads s₁ cs₁ s₂ cs₂) : Reads s cs s₂ cs₂

variable {s s' s₁ final base : State} {cs cs' r : List Char} {fuel : Nat}

theorem skip_of_not_verbose {flags : Flags} (h : flags.verbose = false) (cs : List Char) :
    skip flags cs = cs := by
  simp [skip, h]

namespace Reads

theorem trans {cs₁ : List Char} (h : Reads s cs s₁ cs₁) (h' : Reads s₁ cs₁ s' cs') :
    Reads s cs s' cs' := by
  induction h with
  | refl => exact h'
  | token hskip hstep _ ih => exact .token hskip hstep (ih h')

/-- A single token where nothing is skipped. -/
theorem single {c : Char} (hverbose : s.level.flags.verbose = false)
    (h : s.step (c :: cs) = some (s', cs')) : Reads s (c :: cs) s' cs' :=
  .token (skip_of_not_verbose hverbose _) h (.refl _ _)

theorem ne_nil (h : Reads s cs s' cs') (hcs' : cs' ≠ []) : cs ≠ [] := by
  cases h with
  | refl => exact hcs'
  | token hskip _ _ =>
    rintro rfl
    simp [skip, skipIgnored] at hskip

/-- More text behind what is left changes nothing. -/
theorem append (h : Reads s cs s' cs') (hcs' : cs' ≠ []) (r : List Char) :
    Reads s (cs ++ r) s' (cs' ++ r) := by
  induction h with
  | refl => exact .refl _ _
  | token hskip hstep h ih =>
    exact .token (skip_append hskip r) (State.step_append hstep (Or.inl (h.ne_nil hcs'))) (ih hcs')

end Reads

/-! ## Readings and runs -/

theorem run_cons {c : Char} {ahead : List Char} (h : s.run fuel cs = some final)
    (hskip : skip s.level.flags cs = c :: ahead) :
    ∃ s₁ cs₁ fuel', s.step (c :: ahead) = some (s₁, cs₁) ∧ s₁.run fuel' cs₁ = some final := by
  cases fuel with
  | zero => simp [State.run] at h
  | succ fuel =>
    rw [State.run, hskip] at h
    obtain ⟨⟨s₁, cs₁⟩, hstep, h⟩ := Option.bind_eq_some_iff.mp h
    exact ⟨s₁, cs₁, fuel, hstep, h⟩

/-- A successful run goes through every state that is reached on its way. -/
theorem Reads.run (h : Reads s cs s' cs') (hrun : s.run fuel cs = some final) :
    ∃ fuel', s'.run fuel' cs' = some final := by
  induction h generalizing fuel with
  | refl => exact ⟨fuel, hrun⟩
  | token hskip hstep _ ih =>
    obtain ⟨s₁, cs₁, fuel', hstep', hrun'⟩ := run_cons hrun hskip
    obtain ⟨rfl, rfl⟩ := Prod.mk.inj (Option.some.inj (hstep'.symm.trans hstep))
    exact ih hrun'

/-- The same for tokens that are read inside open groups. -/
theorem Reads.run_nest (h : Reads s cs s' cs') (base : State)
    (hrun : (s.nest base).run fuel cs = some final) :
    ∃ fuel', (s'.nest base).run fuel' cs' = some final := by
  induction h generalizing fuel with
  | refl => exact ⟨fuel, hrun⟩
  | token hskip hstep _ ih =>
    obtain ⟨s₁, cs₁, fuel', hstep', hrun'⟩ := run_cons hrun hskip
    rcases State.step_nest base hstep with hnest | hnest
    · obtain ⟨rfl, rfl⟩ := Prod.mk.inj (Option.some.inj (hstep'.symm.trans hnest))
      exact ih hrun'
    · rw [hnest] at hstep'
      simp at hstep'

theorem run_nil (h : s.run fuel [] = some final) : final = s := by
  cases fuel with
  | zero => simp [State.run] at h
  | succ fuel =>
    have hskip : skip s.level.flags [] = [] := by simp [skip, skipIgnored]
    rw [State.run, hskip] at h
    exact (Option.some.inj h).symm

/-- A text is a regular expression if it is read to the end with all groups closed and its tree is
not too large. -/
theorem parse?_eq_some {root : Node} : parse? cs = some root ↔
    ∃ final, State.run (cs.length + 1) {} cs = some final ∧ final.outer = [] ∧
      final.level.body.height ≤ maxHeight ∧ final.level.body.node.weight ≤ maxWeight ∧
        final.level.body.node = root := by
  unfold parse?
  simp only [Option.bind_eq_bind, Option.bind_eq_some_iff, State.result, List.isEmpty_iff]
  constructor
  · rintro ⟨final, hrun, piece, hresult, h⟩
    split_ifs at hresult h with houter hsize
    obtain rfl := Option.some.inj hresult
    rw [Bool.and_eq_true, decide_eq_true_eq, decide_eq_true_eq] at hsize
    exact ⟨final, hrun, houter, hsize.1, hsize.2, Option.some.inj h⟩
  · rintro ⟨final, hrun, houter, hheight, hweight, rfl⟩
    refine ⟨final, hrun, final.level.body, if_pos houter, if_pos ?_⟩
    rw [Bool.and_eq_true, decide_eq_true_eq, decide_eq_true_eq]
    exact ⟨hheight, hweight⟩

/-! ## What a token does -/

/-- What one token can make of the progress: it adds an item, takes up flags, opens or closes a
group, begins an alternative or repeats the latest item. -/
inductive State.Moves (s : State) : State → Prop where
  | item {piece : Piece} (h : piece.node.IsAtom) : s.Moves (s.push piece)
  | flags (flags : Flags) : s.Moves
      { s.push { node := .empty, repeatable := false } with
        level := { (s.push { node := .empty, repeatable := false }).level with flags } }
  | openPlain (flags : Flags) : s.Moves (s.openGroup .plain flags)
  | openCapture {name : Option String} {s' : State} (h : s.openCapture name = some s') : s.Moves s'
  | close {s' : State} (h : s.closeGroup = some s') : s.Moves s'
  | branch : s.Moves s.nextBranch
  | again {min : Nat} {max : Option Nat} {greedy : Bool} {s' : State}
      (h : s.repeatLast min max greedy = some s') : s.Moves s'

namespace State

variable {s s' : State} {cs rest : List Char}

theorem moves_of_repeatMarked {min : Nat} {max : Option Nat}
    (h : s.repeatMarked min max cs = some (s', rest)) : s.Moves s' := by
  unfold repeatMarked at h
  split at h
  all_goals
    obtain ⟨repeated, hrepeated, heq⟩ := Option.map_eq_some_iff.mp h
    obtain ⟨rfl, -⟩ := Prod.mk.inj heq
    exact .again hrepeated

theorem moves_of_openNamed (h : s.openNamed cs = some (s', rest)) : s.Moves s' := by
  obtain ⟨x, -, h⟩ := Option.bind_eq_some_iff.mp h
  obtain ⟨opened, hopened, heq⟩ := Option.map_eq_some_iff.mp h
  obtain ⟨rfl, -⟩ := Prod.mk.inj heq
  exact .openCapture hopened

theorem moves_of_takeFlags {flags : Flags} {given : List Flag} {stop : FlagsEnd}
    (h : s.takeFlags flags given stop = some s') : s.Moves s' := by
  cases stop with
  | group =>
    obtain rfl := Option.some.inj h
    exact .openPlain flags
  | here =>
    unfold takeFlags at h
    dsimp only at h
    split_ifs at h
    obtain rfl := Option.some.inj h
    exact .flags flags

theorem moves_of_readGroup (h : s.readGroup cs = some (s', rest)) : s.Moves s' := by
  unfold readGroup at h
  split at h
  · simp at h
  · simp at h
  · simp at h
  · simp at h
  · exact moves_of_openNamed h
  · exact moves_of_openNamed h
  · obtain ⟨x, -, htake⟩ := Option.bind_eq_some_iff.mp h
    obtain ⟨taken, htaken, heq⟩ := Option.map_eq_some_iff.mp htake
    obtain ⟨rfl, -⟩ := Prod.mk.inj heq
    exact moves_of_takeFlags htaken
  · obtain ⟨opened, hopened, heq⟩ := Option.map_eq_some_iff.mp h
    obtain ⟨rfl, -⟩ := Prod.mk.inj heq
    exact .openCapture hopened

theorem moves_of_step (h : s.step cs = some (s', rest)) : s.Moves s' := by
  have hitem : ∀ {f : Node → Piece} {read : Option (Node × List Char)},
      (∀ node, (f node).node = node) → (∀ node rest, read = some (node, rest) → node.IsAtom) →
      read.map (fun x => (s.push (f x.1), x.2)) = some (s', rest) → s.Moves s' := by
    intro f read hf hread h
    obtain ⟨⟨node, rest'⟩, hnode, heq⟩ := Option.map_eq_some_iff.mp h
    obtain ⟨rfl, -⟩ := Prod.mk.inj heq
    exact .item ((hf node).symm ▸ hread node rest' hnode)
  cases cs with
  | nil => simp [step] at h
  | cons c cs =>
    simp only [step] at h
    split at h
    case h_1 => exact moves_of_readGroup h
    case h_2 =>
      obtain ⟨closed, hclosed, heq⟩ := Option.map_eq_some_iff.mp h
      obtain ⟨rfl, -⟩ := Prod.mk.inj heq
      exact .close hclosed
    case h_3 =>
      obtain ⟨rfl, -⟩ := Prod.mk.inj (Option.some.inj h)
      exact .branch
    case h_4 | h_5 | h_6 => exact moves_of_repeatMarked h
    case h_7 =>
      obtain ⟨⟨content, rest'⟩, -, h⟩ := Option.bind_eq_some_iff.mp h
      obtain ⟨⟨min, max⟩, -, h⟩ := Option.bind_eq_some_iff.mp h
      exact moves_of_repeatMarked h
    case h_8 =>
      exact hitem (f := fun node => { node, height := 1 }) (fun _ => rfl)
        (fun _ _ => isAtom_of_readClass) h
    case h_9 =>
      exact hitem (f := fun node => { node }) (fun _ => rfl) (fun _ _ => isAtom_of_readEscape) h
    case h_10 =>
      refine hitem (f := fun node => { node }) (fun _ => rfl) (fun node rest hdot => ?_) h
      obtain ⟨node', hnode, heq⟩ := Option.map_eq_some_iff.mp hdot
      obtain ⟨rfl, -⟩ := Prod.mk.inj heq
      exact isAtom_of_dot? hnode
    case h_11 | h_12 =>
      refine hitem (f := fun node => { node }) (fun _ => rfl) (fun node rest hlook => ?_) h
      obtain ⟨rfl, -⟩ := Prod.mk.inj (Option.some.inj hlook)
      exact Or.inr ⟨_, rfl⟩
    case h_13 =>
      refine hitem (f := fun node => { node }) (fun _ => rfl) (fun node rest hliteral => ?_) h
      obtain ⟨rfl, -⟩ := Prod.mk.inj (Option.some.inj hliteral)
      exact Or.inl ⟨_, rfl⟩

/-- What every token preserves, a successful run preserves. -/
theorem run_induction {P : State → Prop} (hmove : ∀ s s', s.Moves s' → P s → P s') {fuel : Nat}
    {final : State} (hrun : s.run fuel cs = some final) (h : P s) : P final := by
  induction fuel generalizing s cs with
  | zero => simp [run] at hrun
  | succ fuel ih =>
    rw [run] at hrun
    split at hrun
    · obtain rfl := Option.some.inj hrun
      exact h
    · obtain ⟨⟨s₁, cs₁⟩, hstep, hrun⟩ := Option.bind_eq_some_iff.mp hrun
      exact ih hrun (hmove s s₁ (moves_of_step hstep) h)

end State

/-- What every token preserves is preserved from state to state. -/
theorem Reads.induction {P : State → Prop} (hmove : ∀ s s', s.Moves s' → P s → P s')
    (h : Reads s cs s' cs') (hs : P s) : P s' := by
  induction h with
  | refl => exact hs
  | token _ hstep _ ih => exact ih (hmove _ _ (State.moves_of_step hstep) hs)

/-! ## Fragments that fill a group -/

/-- Between parentheses the fragment is the body of one group: with a closing parenthesis behind it,
it is read up to that parenthesis, and no group is open there. The progress made with it is `s`. -/
def Fills (fragment : List Char) (s : State) : Prop :=
  ∃ rest, Reads {} (fragment ++ [')']) s rest ∧ skip s.level.flags rest = [')'] ∧ s.outer = []

theorem nest_empty (hbase : base.level = {}) : ({} : State).nest base = base := by
  obtain ⟨level, outer, count, names⟩ := base
  subst hbase
  simp [State.nest, Level.shift]

/-- A fragment that fills a group is read in every group as on its own, and the parenthesis behind
it closes that group. -/
theorem Fills.run {fragment : List Char} (h : Fills fragment s) (hbase : base.level = {})
    (hrun : base.run fuel (fragment ++ ')' :: r) = some final) :
    ∃ closed fuel', (s.nest base).closeGroup = some closed ∧ closed.run fuel' r = some final := by
  obtain ⟨rest, hreads, hskip, -⟩ := h
  have hrest : rest ≠ [] := by
    rintro rfl
    simp [skip, skipIgnored] at hskip
  have happend := hreads.append hrest r
  rw [List.append_assoc, List.singleton_append] at happend
  rw [← nest_empty hbase] at hrun
  obtain ⟨fuel₁, hrun₁⟩ := happend.run_nest base hrun
  obtain ⟨closed, cs₁, fuel₂, hstep, hrun₂⟩ := run_cons hrun₁ (skip_append hskip r)
  rw [List.nil_append] at hstep
  obtain ⟨closed', hclosed, heq⟩ := Option.map_eq_some_iff.mp hstep
  obtain ⟨rfl, rfl⟩ := Prod.mk.inj heq
  exact ⟨closed', fuel₂, hclosed, hrun₂⟩

end Routing.Regex.Parser
