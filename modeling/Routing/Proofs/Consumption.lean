import Routing.Proofs.Quiet
import Routing.Proofs.Reader

/-!
# Proofs: fuel

Every token takes a character at least. So the fuel with which a text is read is enough: a text that
can be read token by token to its end is read to its end.
-/

namespace Routing.Regex.Parser

variable {flags : Flags} {cs : List Char}

/-- At most `n` characters are left behind what is read. -/
def Leaves {α : Type} (n : Nat) (read : Option (α × List Char)) : Prop :=
  ∀ x ∈ read, x.2.length ≤ n

section Leaves

variable {α β : Type} {m n : Nat} {read : Option (α × List Char)}

theorem leaves_none : Leaves n (none : Option (α × List Char)) := by
  simp [Leaves]

theorem leaves_pair (value : Option α) (h : cs.length ≤ n) : Leaves n (value.map (·, cs)) := by
  intro x hx
  obtain ⟨_, -, rfl⟩ := Option.map_eq_some_iff.mp hx
  exact h

theorem Leaves.mono (h : Leaves m read) (hle : m ≤ n) : Leaves n read :=
  fun x hx => Nat.le_trans (h x hx) hle

theorem Leaves.map (f : α → β) (h : Leaves n read) : Leaves n (read.map fun x => (f x.1, x.2)) := by
  intro x hx
  obtain ⟨y, hy, rfl⟩ := Option.map_eq_some_iff.mp hx
  exact h y hy

/-- One reader after the other leaves no more than the first one leaves. -/
theorem Leaves.bind {next : α × List Char → Option (β × List Char)} (h : Leaves n read)
    (hnext : ∀ x, Leaves x.2.length (next x)) : Leaves n (read.bind next) := by
  intro x hx
  obtain ⟨y, hy, hx⟩ := Option.bind_eq_some_iff.mp hx
  exact Nat.le_trans (hnext y x hx) (h y hy)

/-- Putting the result to a test does not change what is left. -/
theorem Leaves.check (value? : α → Option β) (h : Leaves n read) :
    Leaves n (read.bind fun x => (value? x.1).map (·, x.2)) :=
  h.bind fun _ => leaves_pair _ (Nat.le_refl _)

end Leaves

/-! ## Readers -/

/-- Skipping does not make a text longer. -/
theorem length_skipIgnored_le (inComment : Bool) (cs : List Char) :
    (skipIgnored inComment cs).length ≤ cs.length := by
  fun_induction skipIgnored inComment cs with
  | case1 => exact Nat.le_refl _
  | case2 _ _ ih | case3 _ _ _ _ _ ih | case4 _ _ _ _ ih => exact Nat.le_succ_of_le ih
  | case5 => exact Nat.le_refl _

theorem length_skip_le (flags : Flags) (cs : List Char) : (skip flags cs).length ≤ cs.length := by
  unfold skip
  split_ifs
  · exact length_skipIgnored_le false cs
  · exact Nat.le_refl _

/-- What stands behind the first character that counts is shorter than the text. -/
theorem length_of_skip {c : Char} {ahead : List Char} (h : skip flags cs = c :: ahead) :
    ahead.length < cs.length := by
  have hle := length_skip_le flags cs
  rwa [h] at hle

/-- Braces leave no more than the text behind their opening. -/
theorem leaves_readBraced (verbose inComment : Bool) (cs : List Char) :
    Leaves cs.length (readBraced verbose inComment cs) := by
  fun_induction readBraced verbose inComment cs with
  | case1 => exact leaves_none
  | case2 _ _ ih => exact ih.mono (Nat.le_succ _)
  | case3 _ _ _ _ _ ih => exact ih.mono (Nat.le_succ _)
  | case4 _ _ _ _ _ _ ih => exact ih.mono (Nat.le_succ _)
  | case5 => exact leaves_pair (some []) (Nat.le_succ _)
  | case6 _ c _ _ _ _ _ ih => exact (ih.map (c :: ·)).mono (Nat.le_succ _)

theorem leaves_readHexDigits (flags : Flags) (count : Nat) (cs : List Char) :
    Leaves cs.length (readHexDigits flags count cs) := by
  induction count generalizing cs with
  | zero => exact leaves_pair (some []) (Nat.le_refl _)
  | succ count ih =>
    unfold readHexDigits
    split
    · exact leaves_none
    · rename_i c ahead hskip
      split_ifs
      · exact ((ih ahead).map (c :: ·)).mono (Nat.le_of_lt (length_of_skip hskip))
      · exact leaves_none

/-- In braces or without, the code of a character leaves no more than there was. -/
theorem leaves_readCode (flags : Flags) (width : Nat) (cs : List Char) :
    Leaves cs.length (readCode flags width cs) := by
  by_cases hbrace : (skip flags cs).head? = some '\x7b'
  · obtain ⟨inside, hinside⟩ := List.head?_eq_some_iff.mp hbrace
    rw [readCode_of_brace hinside]
    exact ((leaves_readBraced _ _ inside).check braceValue?).mono
      (Nat.le_of_lt (length_of_skip hinside))
  · rw [readCode_of_digits hbrace]
    exact ((leaves_readHexDigits flags width _).check (digitsValue? flags width)).mono
      (length_skip_le flags cs)

theorem leaves_readProperty (flags : Flags) (negated : Bool) (cs : List Char) :
    Leaves cs.length (readProperty flags negated cs) := by
  have hname : Leaves cs.length (readPropertyName flags cs) := by
    unfold readPropertyName
    split
    · exact leaves_none
    · rename_i inside hskip
      exact (leaves_readBraced _ _ inside).mono (Nat.le_of_lt (length_of_skip hskip))
    · exact leaves_none
    · rename_i c ahead _ _ hskip
      exact leaves_pair (some [c]) (Nat.le_of_lt (length_of_skip hskip))
  exact hname.check (propertyNode? flags negated)

theorem leaves_readWordEdge (flags : Flags) (cs : List Char) :
    Leaves cs.length (readWordEdge flags cs) := by
  by_cases hbrace : cs.head? = some '\x7b'
  · obtain ⟨inside, rfl⟩ := List.head?_eq_some_iff.mp hbrace
    cases hskip : skip flags inside with
    | nil =>
      rw [readWordEdge, hskip]
      exact leaves_none
    | cons c ahead =>
      rw [readWordEdge_of_brace hskip]
      split_ifs
      · exact ((leaves_readBraced _ _ inside).check edgeNamed?).mono (Nat.le_succ _)
      · exact leaves_pair (some _) (Nat.le_refl _)
  · rw [readWordEdge_of_ne hbrace]
    exact leaves_pair (some _) (Nat.le_refl _)

/-- Whatever an escape stands for, it leaves no more than there was behind the backslash. -/
theorem leaves_readEscape (flags : Flags) (cs : List Char) :
    Leaves cs.length (readEscape flags cs) := by
  cases cs with
  | nil => exact leaves_none
  | cons c cs =>
    refine Leaves.mono (m := cs.length) ?_ (Nat.le_succ _)
    simp only [readEscape]
    split
    case h_1 | h_2 | h_3 => exact (leaves_readCode flags _ cs).map flags.literal
    case h_4 | h_5 => exact leaves_readProperty flags _ cs
    case h_6 | h_7 | h_8 | h_9 | h_10 | h_11 => exact leaves_pair _ (Nat.le_refl _)
    case h_20 =>
      exact (leaves_readWordEdge flags cs).map fun edge => Node.look (.word edge flags.unicode)
    case h_24 =>
      split_ifs
      · exact leaves_pair (some _) (Nat.le_refl _)
      · exact leaves_none
    all_goals exact leaves_pair (some _) (Nat.le_refl _)

theorem leaves_readMembers (cs : List Char) : Leaves cs.length (readMembers cs) := by
  fun_induction readMembers cs with
  | case1 => exact leaves_none
  | case2 => exact leaves_pair (some []) (Nat.le_succ _)
  | case3 c => exact leaves_pair (some [(c.toNat, c.toNat), (0x2D, 0x2D)]) (by simp; omega)
  | case4 => exact leaves_none
  | case5 c d cs _ _ _ ih => exact (ih.map ((c.toNat, d.toNat) :: ·)).mono (by simp; omega)
  | case6 c cs _ _ _ ih => exact (ih.map ((c.toNat, c.toNat) :: ·)).mono (Nat.le_succ _)

/-- A class leaves no more than there was behind its bracket. -/
theorem leaves_readClass (flags : Flags) (cs : List Char) :
    Leaves cs.length (readClass flags cs) := by
  have hmembers : ∀ (negated : Bool) (members : List Char), Leaves members.length
      ((readMembers members).bind fun x =>
        (flags.complement? negated (flags.close (.ranges x.1))).bind fun node =>
          some (node, x.2)) := by
    intro negated members
    refine (leaves_readMembers members).bind fun x => ?_
    cases flags.complement? negated (flags.close (.ranges x.1)) with
    | none => exact leaves_none
    | some node => exact leaves_pair (some node) (Nat.le_refl _)
  unfold readClass
  split
  rename_i heq
  split at heq
  · obtain ⟨rfl, rfl⟩ := Prod.mk.inj heq
    exact (hmembers true _).mono (Nat.le_succ _)
  · obtain ⟨rfl, rfl⟩ := Prod.mk.inj heq
    exact hmembers false _

/-- Flags are read with more than one value in front of what is left. -/
theorem length_of_readFlags {flags' : Flags} {given given' : List Flag} {negated dangling : Bool}
    {rest : List Char} {stop : FlagsEnd}
    (h : readFlags flags given negated dangling cs = some (flags', given', stop, rest)) :
    rest.length ≤ cs.length := by
  fun_induction readFlags flags given negated dangling cs with
  | case3 flags given negated dangling cs hd | case5 flags given negated dangling cs hd =>
    simp only [Option.some.injEq, Prod.mk.injEq] at h
    obtain ⟨-, -, -, rfl⟩ := h
    exact Nat.le_succ _
  | case7 flags given negated dangling cs hn ih => exact Nat.le_succ_of_le (ih h)
  | case10 flags given negated dangling c cs hcolon hclose hminus flag hflag hnew ih =>
    exact Nat.le_succ_of_le (ih h)
  | _ => simp at h

theorem leaves_readName (first : Bool) (cs : List Char) : Leaves cs.length (readName first cs) := by
  fun_induction readName first cs with
  | case3 => exact leaves_pair (some []) (Nat.le_succ _)
  | case4 _ c _ _ _ ih => exact (ih.map (c :: ·)).mono (Nat.le_succ _)
  | _ => exact leaves_none

namespace State

variable {s s' : State} {rest : List Char}

theorem leaves_openNamed (s : State) (cs : List Char) : Leaves cs.length (s.openNamed cs) :=
  (leaves_readName true cs).check fun name => s.openCapture (some (String.ofList name))

/-- The beginning of a group leaves no more than there was behind the parenthesis. -/
theorem leaves_readGroup (s : State) (cs : List Char) : Leaves cs.length (s.readGroup cs) := by
  have hskip := length_skip_le s.level.flags cs
  refine Leaves.mono (m := (skip s.level.flags cs).length) ?_ hskip
  unfold readGroup
  generalize skip s.level.flags cs = ahead
  split
  · exact leaves_none
  · exact leaves_none
  · exact leaves_none
  · exact leaves_none
  · exact (s.leaves_openNamed _).mono (by simp; omega)
  · exact (s.leaves_openNamed _).mono (by simp; omega)
  · intro x hx
    obtain ⟨⟨flags, given, stop, rest⟩, hflags, hx⟩ := Option.bind_eq_some_iff.mp hx
    obtain ⟨_, -, rfl⟩ := Option.map_eq_some_iff.mp hx
    exact Nat.le_succ_of_le (length_of_readFlags hflags)
  · exact leaves_pair _ (Nat.le_refl _)

/-- A repetition takes a question mark at most. -/
theorem leaves_repeatMarked (s : State) (min : Nat) (max : Option Nat) (cs : List Char) :
    Leaves cs.length (s.repeatMarked min max cs) := by
  unfold repeatMarked
  split
  · exact leaves_pair _ (Nat.le_succ _)
  · exact leaves_pair _ (Nat.le_refl _)

/-- A token takes a character at least. -/
theorem leaves_step (s : State) (c : Char) (cs : List Char) :
    Leaves cs.length (s.step (c :: cs)) := by
  simp only [step]
  split
  case h_1 => exact s.leaves_readGroup cs
  case h_2 => exact leaves_pair _ (Nat.le_refl _)
  case h_3 => exact leaves_pair (some _) (Nat.le_refl _)
  case h_4 | h_5 | h_6 => exact s.leaves_repeatMarked _ _ cs
  case h_7 =>
    refine (leaves_readBraced s.level.flags.verbose false cs).bind fun x => ?_
    cases readCounts? x.1 with
    | none => exact leaves_none
    | some counts => exact (s.leaves_repeatMarked _ _ _).mono (length_skip_le s.level.flags x.2)
  case h_8 => exact (leaves_readClass s.level.flags cs).map fun node => s.push { node, height := 1 }
  case h_9 => exact (leaves_readEscape s.level.flags cs).map s.pushNode
  case h_10 => exact (leaves_pair s.level.flags.dot? (Nat.le_refl _)).map s.pushNode
  all_goals exact leaves_pair (some _) (Nat.le_refl _)

end State

/-! ## Runs -/

/-- Every step takes a character at least; so a run needs no more steps than there are characters. -/
theorem length_lt_of_step {s s' : State} {c : Char} {ahead rest : List Char}
    (hskip : skip s.level.flags cs = c :: ahead) (hstep : s.step (c :: ahead) = some (s', rest)) :
    rest.length < cs.length := by
  have hrest : rest.length ≤ ahead.length := State.leaves_step s c ahead (s', rest) hstep
  exact Nat.lt_of_le_of_lt hrest (length_of_skip hskip)

/-- A text that can be read to its end is read to its end. -/
theorem Reads.run_eq {s s' : State} {fuel : Nat} (h : Reads s cs s' []) (hfuel : cs.length < fuel) :
    s.run fuel cs = some s' := by
  generalize hend : ([] : List Char) = rest at h
  induction h generalizing fuel with
  | refl s cs =>
    subst hend
    obtain ⟨fuel, rfl⟩ := Nat.exists_eq_succ_of_ne_zero (Nat.ne_zero_of_lt hfuel)
    have hskip : skip s.level.flags [] = [] := by simp [skip, skipIgnored]
    rw [State.run, hskip]
  | token hskip hstep _ ih =>
    obtain ⟨fuel, rfl⟩ := Nat.exists_eq_succ_of_ne_zero (Nat.ne_zero_of_lt hfuel)
    have hless := length_lt_of_step hskip hstep
    rw [State.run, hskip]
    simp only [hstep, Option.bind_some]
    exact ih (by omega) hend

end Routing.Regex.Parser
