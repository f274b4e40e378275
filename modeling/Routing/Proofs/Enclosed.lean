import Routing.Proofs.Reader
import Routing.Proofs.Tokens

/-!
# Proofs: fragments whose parentheses pair up

No token but a group and an escape runs over a parenthesis or a backslash. So if the parentheses of
a text pair up, the end of the text falls between two tokens, and the text is read in the same way
whether it ends the expression or the parenthesis behind it closes a group. Classes and comments
hide parentheses; texts with the characters that begin them are left out.
-/

namespace Routing.Regex.Parser

/-- Whether the parentheses of the text, with `depth` groups open before it, pair up and none is
left open at its end; a parenthesis behind a backslash does not count. The text may not end in such
a backslash, and only behind one it may hold the characters that begin a class or a comment. -/
def isEnclosed (escaped : Bool) (depth : Nat) : List Char → Bool
  | [] => !escaped && depth = 0
  | c :: cs =>
    if escaped then isEnclosed false depth cs
    else if c = '\\' then isEnclosed true depth cs
    else if c = '(' then isEnclosed false (depth + 1) cs
    else if c = ')' then depth ≠ 0 && isEnclosed false (depth - 1) cs
    else isQuiet c && isEnclosed false depth cs

variable {flags : Flags} {u t v cs : List Char} {c : Char} {depth : Nat}

@[simp] theorem isEnclosed_nil : isEnclosed false depth [] = true ↔ depth = 0 := by
  simp [isEnclosed]

theorem isEnclosed_open :
    isEnclosed false depth ('(' :: cs) = isEnclosed false (depth + 1) cs := rfl

/-- A group can be closed only if one is open. -/
theorem isEnclosed_close :
    isEnclosed false depth (')' :: cs) = true ↔
      depth ≠ 0 ∧ isEnclosed false (depth - 1) cs = true := by
  simp [isEnclosed]

theorem isEnclosed_ordinary (hc : isMark c = false) :
    isEnclosed false depth (c :: cs) = (isQuiet c && isEnclosed false depth cs) := by
  have hne : ∀ d, isMark d = true → c ≠ d := by
    rintro d hd rfl
    rw [hc] at hd
    exact absurd hd (by decide)
  rw [isEnclosed, if_neg (by decide), if_neg (hne _ rfl), if_neg (hne _ rfl), if_neg (hne _ rfl)]

/-- Quiet text opens no group and closes none. -/
theorem isEnclosed_quiet (hu : Quiet u) :
    isEnclosed false depth (u ++ cs) = isEnclosed false depth cs := by
  induction u with
  | nil => rfl
  | cons c u ih =>
    rw [List.cons_append, isEnclosed_ordinary (isMark_of_isQuiet hu.head), hu.head, Bool.true_and,
      ih hu.tail]

/-- A backslash takes the next character with it. -/
theorem exists_of_isEnclosed_escape (h : isEnclosed false depth ('\\' :: cs) = true) :
    ∃ c cs', cs = c :: cs' ∧ isEnclosed false depth cs' = true := by
  cases cs with
  | nil => simp [isEnclosed] at h
  | cons c cs => exact ⟨c, cs, rfl, h⟩

/-- An enclosed text is quiet up to its first mark. -/
theorem exists_quiet (h : isEnclosed false depth cs = true) :
    ∃ u t, cs = u ++ t ∧ Quiet u ∧ AtMark t ∧ isEnclosed false depth t = true := by
  induction cs with
  | nil => exact ⟨[], [], rfl, by simp [Quiet], .nil, h⟩
  | cons c cs ih =>
    by_cases hc : isMark c = true
    · exact ⟨[], c :: cs, rfl, by simp [Quiet], .cons hc, h⟩
    · rw [isEnclosed_ordinary (by simpa using hc), Bool.and_eq_true] at h
      obtain ⟨u, t, rfl, hu, ht, hrest⟩ := ih h.2
      refine ⟨c :: u, t, rfl, ?_, ht, hrest⟩
      intro d hd
      rcases List.mem_cons.mp hd with rfl | hd
      · exact h.1
      · exact hu d hd

/-! ## Enclosed texts token by token -/

variable {s s₁ base : State} {fuel : Nat} {ahead : List Char}

/-- A run fails if it fails from wherever its first step leads. -/
theorem run_eq_none (hskip : skip s.level.flags cs = c :: ahead)
    (h : ∀ s₁ cs₁, s.step (c :: ahead) = some (s₁, cs₁) → ∀ fuel, s₁.run fuel cs₁ = none) :
    s.run fuel cs = none := by
  cases hrun : s.run fuel cs with
  | none => rfl
  | some final =>
    obtain ⟨s₁, cs₁, fuel₁, hstep, hrun₁⟩ := run_cons hrun hskip
    rw [h s₁ cs₁ hstep] at hrun₁
    simp at hrun₁

/-- A token that is read on its own leads inside open groups nowhere, if what follows does not. -/
theorem run_nest_eq_none {cs₁ : List Char} (hskip : skip s.level.flags cs = c :: ahead)
    (hstep : s.step (c :: ahead) = some (s₁, cs₁))
    (h : ∀ fuel, (s₁.nest base).run fuel cs₁ = none) : (s.nest base).run fuel cs = none := by
  refine run_eq_none (by rwa [State.flags_nest]) fun s₂ cs₂ hstep₂ => ?_
  rcases State.step_nest base hstep with hnest | hnest
  · obtain ⟨rfl, rfl⟩ := Prod.mk.inj (Option.some.inj (hnest.symm.trans hstep₂))
    exact h
  · rw [hnest] at hstep₂
    simp at hstep₂

/-- Inside open groups the reader does not get through the text to the parenthesis behind it. -/
def State.Sticks (s : State) (cs : List Char) : Prop :=
  ∀ base fuel before r, skip s.level.flags before = cs ++ ')' :: r →
    (s.nest base).run fuel before = none

/-- The first token of the text leads nowhere, or it is read in the same way before everything that
may stand behind the text, and what is left of the text is enclosed again. -/
def State.Advances (s : State) (cs : List Char) : Prop :=
  s.Sticks cs ∨ ∃ s₁ rest, isEnclosed false s₁.outer.length rest = true ∧
    rest.length < cs.length ∧ ∀ r, AtMark r → s.step (cs ++ r) = some (s₁, rest ++ r)

namespace State

theorem sticks_of_step (hclose : s.outer = [] → c ≠ ')')
    (h : ∀ r, s.step (c :: (cs ++ ')' :: r)) = none) : s.Sticks (c :: cs) := by
  intro base fuel before r hskip
  rw [List.cons_append] at hskip
  refine run_eq_none (by rwa [flags_nest]) fun s₁ cs₁ hstep => ?_
  rw [step_nest_none base (h r) (by simpa using hclose)] at hstep
  simp at hstep

theorem atMark_close (ht : AtMark t) (r : List Char) : AtMark (t ++ ')' :: r) :=
  ht.append (.cons rfl)

/-- A token that settles before the next mark advances. -/
theorem advances_of_settles (more : List Char) (hc : c ≠ '(' ∧ c ≠ ')') (hu : Quiet u)
    (ht : AtMark t) (henclosed : isEnclosed false s.outer.length t = true)
    (h : Settles (fun cs => s.step (c :: (more ++ cs))) u) :
    s.Advances (c :: (more ++ (u ++ t))) := by
  rcases h with h | ⟨s₁, rest, hrest, h⟩
  · refine Or.inl (sticks_of_step (fun _ => hc.2) fun r => ?_)
    rw [List.append_assoc, List.append_assoc]
    exact h _ (atMark_close ht r)
  · have houter := outer_of_step (h t ht) hc.1 hc.2
    refine Or.inr ⟨s₁, rest ++ t, ?_, ?_, fun r hr => ?_⟩
    · rwa [isEnclosed_quiet (hu.of_suffix hrest), houter]
    · have hlength := hrest.length_le
      simp only [List.length_cons, List.length_append]
      omega
    · rw [List.cons_append, List.append_assoc, List.append_assoc, List.append_assoc]
      exact h _ (ht.append hr)

/-- A quiet character begins a token that leads nowhere or is read in the same way before everything. -/
theorem advances_quiet (hc : isQuiet c = true)
    (h : isEnclosed false s.outer.length (c :: cs) = true) : s.Advances (c :: cs) := by
  have hcs : isEnclosed false s.outer.length cs = true := by
    rwa [← isEnclosed_quiet (u := [c]) (by simpa [Quiet] using hc)]
  obtain ⟨u, t, rfl, hu, ht, henclosed⟩ := exists_quiet hcs
  exact advances_of_settles [] ⟨ne_of_isQuiet hc rfl, ne_of_isQuiet hc rfl⟩ hu ht
    henclosed (settles_step hc hu)

/-- The end of a group of the text leads nowhere or is read in the same way before everything. -/
theorem advances_close (h : isEnclosed false s.outer.length (')' :: cs) = true) :
    s.Advances (')' :: cs) := by
  obtain ⟨hdepth, hcs⟩ := isEnclosed_close.mp h
  cases houter : s.outer with
  | nil => exact absurd (by rw [houter]; rfl) hdepth
  | cons around outer =>
    obtain ⟨kind, level⟩ := around
    rw [houter, List.length_cons, Nat.add_sub_cancel] at hcs
    refine Or.inr ⟨({ s with level, outer } : State).push (kind.close s.level.body), cs, hcs,
      Nat.lt_succ_self _, fun r _ => ?_⟩
    rw [List.cons_append, step, closeGroup, houter]
    rfl

/-- The beginning of a group leads nowhere or is read in the same way before everything. -/
theorem advances_open (h : isEnclosed false s.outer.length ('(' :: cs) = true) :
    s.Advances ('(' :: cs) := by
  rw [isEnclosed_open] at h
  obtain ⟨u, t, rfl, hu, ht, henclosed⟩ := exists_quiet h
  cases t with
  | nil => simp at henclosed
  | cons c x =>
    have hassoc : ∀ r, u ++ c :: x ++ r = u ++ c :: (x ++ r) := fun r => by simp
    rcases groupSettles_readGroup (s := s) hu ht.isMark with
      hgroup | ⟨s₁, rest, houter, hrest, hgroup⟩ | ⟨rfl, s₁, houter, hgroup⟩
    · refine Or.inl (sticks_of_step (fun _ => by decide) fun r => ?_)
      rw [hassoc]
      exact hgroup _
    · refine Or.inr ⟨s₁, rest ++ c :: x, ?_, ?_, fun r _ => ?_⟩
      · rwa [isEnclosed_quiet (hu.of_suffix hrest), houter]
      · have hlength := hrest.length_le
        simp only [List.length_cons, List.length_append]
        omega
      · rw [List.cons_append, hassoc, List.append_assoc, List.cons_append]
        exact hgroup _
    · refine Or.inr ⟨s₁, x, ?_, ?_, fun r _ => ?_⟩
      · rw [houter]
        exact (isEnclosed_close.mp henclosed).2
      · simp only [List.length_cons, List.length_append]
        omega
      · rw [List.cons_append, hassoc]
        exact hgroup _

theorem skip_brace (cs : List Char) : skip flags ('\x7b' :: cs) = '\x7b' :: cs := by
  unfold skip
  split_ifs <;> rfl

/-- Behind an edge of a word, braces that hold nothing but blanks before the next mark are refused
for a repetition. -/
theorem sticks_emptyBraces (ht : AtMark t) (hv : Quiet v)
    (hempty : skip s.level.flags v = []) :
    s.Sticks ('\\' :: 'b' :: '\x7b' :: (v ++ t)) := by
  intro base fuel before r hskip
  have hmark := atMark_close ht r
  obtain ⟨c, x, hx⟩ := List.exists_cons_of_ne_nil
    (show t ++ ')' :: r ≠ [] by simp)
  have hc : isMark c = true := hmark c (by rw [hx]; rfl)
  have hletter : ¬ (c.isAlpha || c = '-') = true := by
    rcases isMark_iff.mp hc with rfl | rfl | rfl <;> decide
  have hedge : readWordEdge s.level.flags ('\x7b' :: (v ++ (t ++ ')' :: r))) =
      some (.boundary, '\x7b' :: (v ++ (t ++ ')' :: r))) := by
    rw [readWordEdge_of_brace (c := c) (v := x), if_neg hletter]
    rw [skip_quiet hv hmark, hempty, hx, List.nil_append]
  have hstep : s.step ('\\' :: 'b' :: '\x7b' :: (v ++ (t ++ ')' :: r))) =
      some (s.pushNode (.look (.word .boundary s.level.flags.unicode)),
        '\x7b' :: (v ++ (t ++ ')' :: r))) := by
    simp only [step, readEscape, hedge, Option.map_some]
  rw [List.cons_append, List.cons_append, List.cons_append, List.append_assoc] at hskip
  refine run_nest_eq_none hskip hstep fun fuel => ?_
  refine run_eq_none (skip_brace _) fun s₁ cs₁ hbraces => ?_
  -- with nothing behind them the braces are not closed, so they are not closed before a mark either
  rcases settles_step (s := s.pushNode (.look (.word .boundary s.level.flags.unicode)))
    (c := '\x7b') rfl hv with hfail | ⟨s₂, rest, -, hread⟩
  · rw [step_nest_none base (hfail _ hmark) (by simp)] at hbraces
    simp at hbraces
  · have halone := hread [] .nil
    have hopen : readBraced s.level.flags.verbose false v = none := readBraced_eq_none hempty
    simp only [List.append_nil, step] at halone
    rw [show (s.pushNode _).level.flags = s.level.flags from rfl, hopen] at halone
    simp at halone

/-- An escape leads nowhere or is read in the same way before everything. -/
theorem advances_escape (h : isEnclosed false s.outer.length ('\\' :: cs) = true) :
    s.Advances ('\\' :: cs) := by
  obtain ⟨c, cs, rfl, hcs⟩ := exists_of_isEnclosed_escape h
  obtain ⟨u, t, rfl, hu, ht, henclosed⟩ := exists_quiet hcs
  by_cases hempty : c = 'b' ∧ ∃ v, u = '\x7b' :: v ∧ skip s.level.flags v = []
  · obtain ⟨rfl, v, rfl, hv⟩ := hempty
    exact Or.inl (sticks_emptyBraces ht hu.tail hv)
  · refine advances_of_settles [c] (by decide) hu ht henclosed ?_
    refine (settles_readEscape hu fun hb v hv hskip => ?_).map s.pushNode
    exact hempty ⟨hb, v, hv, hskip⟩

/-- The first token of an enclosed text leads nowhere or is read in the same way before everything. -/
theorem advances_of_isEnclosed (h : isEnclosed false s.outer.length (c :: cs) = true) :
    s.Advances (c :: cs) := by
  by_cases hmark : isMark c = true
  · rcases isMark_iff.mp hmark with rfl | rfl | rfl
    · exact advances_open h
    · exact advances_close h
    · exact advances_escape h
  · have hquiet := h
    rw [isEnclosed_ordinary (by simpa using hmark), Bool.and_eq_true] at hquiet
    exact advances_quiet hquiet.1 h

end State

/-! ## Runs over enclosed texts -/

/-- From `s` the text is read to `s'`, where no group is open, whether nothing or a closing
parenthesis stands behind it. -/
structure ReadsAlike (s : State) (cs : List Char) (s' : State) : Prop where
  outer : s'.outer = []
  inside : ∃ rest, Reads s (cs ++ [')']) s' rest ∧ skip s'.level.flags rest = [')']
  alone : ∀ fuel, cs.length < fuel → s.run fuel cs = some s'

theorem ReadsAlike.cons {s' : State} {cs₁ : List Char}
    (hskip : ∀ r, AtMark r → skip s.level.flags (cs ++ r) = c :: (ahead ++ r))
    (hstep : ∀ r, AtMark r → s.step (c :: (ahead ++ r)) = some (s₁, cs₁ ++ r))
    (hlength : cs₁.length < cs.length) (h : ReadsAlike s₁ cs₁ s') : ReadsAlike s cs s' where
  outer := h.outer
  inside := by
    obtain ⟨rest, hreads, hrest⟩ := h.inside
    have hclose : AtMark [')'] := .cons rfl
    exact ⟨rest, .token (hskip _ hclose) (hstep _ hclose) hreads, hrest⟩
  alone := by
    intro fuel hfuel
    have hskip := hskip [] .nil
    have hstep := hstep [] .nil
    simp only [List.append_nil] at hskip hstep
    obtain ⟨fuel, rfl⟩ := Nat.exists_eq_succ_of_ne_zero (Nat.ne_zero_of_lt hfuel)
    rw [State.run, hskip]
    simp only [hstep, Option.bind_some]
    exact h.alone fuel (by omega)

/-- An enclosed text leads nowhere inside any group, or it is read there as on its own. -/
theorem sticks_or_readsAlike (h : isEnclosed false s.outer.length cs = true) :
    (∀ base fuel r, (s.nest base).run fuel (cs ++ ')' :: r) = none) ∨
      ∃ s', ReadsAlike s cs s' := by
  induction hn : cs.length using Nat.strongRecOn generalizing s cs with
  | ind n ih =>
    subst hn
    obtain ⟨u, t, rfl, hu, ht, henclosed⟩ := exists_quiet h
    have hskip : ∀ r, AtMark r → skip s.level.flags (u ++ t ++ r) =
        skip s.level.flags u ++ t ++ r := by
      intro r hr
      rw [List.append_assoc, skip_quiet hu (ht.append hr), List.append_assoc]
    have hsuffix := skip_suffix s.level.flags hu
    have henclosed' : isEnclosed false s.outer.length (skip s.level.flags u ++ t) = true := by
      rwa [isEnclosed_quiet (hu.of_suffix hsuffix)]
    cases hahead : skip s.level.flags u ++ t with
    | nil =>
      obtain ⟨hblank, rfl⟩ := List.append_eq_nil_iff.mp hahead
      refine Or.inr ⟨s, List.length_eq_zero_iff.mp (isEnclosed_nil.mp henclosed),
        ⟨_, .refl _ _, ?_⟩, fun fuel hfuel => ?_⟩
      · rw [hskip _ (.cons rfl), hahead]
        rfl
      · obtain ⟨fuel, rfl⟩ := Nat.exists_eq_succ_of_ne_zero (Nat.ne_zero_of_lt hfuel)
        rw [State.run, List.append_nil, hblank]
    | cons c ahead =>
      rw [hahead] at henclosed'
      rcases State.advances_of_isEnclosed henclosed' with hsticks | ⟨s₁, cs₁, hcs₁, hlength, hstep⟩
      · refine Or.inl fun base fuel r => hsticks base fuel _ r ?_
        rw [hskip _ (.cons rfl), hahead]
      · have hlonger : (c :: ahead).length ≤ (u ++ t).length := by
          rw [← hahead, List.length_append, List.length_append]
          exact Nat.add_le_add_right hsuffix.length_le _
        rcases ih cs₁.length (by omega) hcs₁ rfl with hnone | ⟨s', hreads⟩
        · refine Or.inl fun base fuel r => ?_
          have hclose : AtMark (')' :: r) := .cons rfl
          refine run_nest_eq_none ?_ (hstep _ hclose) fun fuel => hnone base fuel r
          rw [hskip _ hclose, hahead]
          rfl
        · refine Or.inr ⟨s', hreads.cons (fun r hr => ?_) hstep (by omega)⟩
          rw [hskip r hr, hahead]
          rfl

end Routing.Regex.Parser
