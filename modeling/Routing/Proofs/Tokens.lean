import Routing.Proofs.Lookahead
import Routing.Proofs.Quiet

/-!
# Proofs: tokens in front of quiet text

A token that is neither a parenthesis nor a backslash is settled by the quiet text behind it, and so
are most escapes. Behind an opening parenthesis the kind of the group is settled in the same way;
flags may take the parenthesis that comes next.
-/

namespace Routing.Regex.Parser

variable {flags : Flags} {u t v cs : List Char} {c : Char}

/-! ## Tokens of quiet text -/

/-- Most escapes are one character behind the backslash. -/
theorem readEscape_of_single (hc : c ∉ ['x', 'u', 'U', 'p', 'P', 'b']) (cs : List Char) :
    readEscape flags (c :: cs) = (readEscape flags [c]).map fun x => (x.1, cs) := by
  simp only [List.mem_cons, List.not_mem_nil, or_false, not_or] at hc
  obtain ⟨h₁, h₂, h₃, h₄, h₅, h₆⟩ := hc
  simp only [readEscape]
  split
  case h_1 => exact absurd rfl h₁
  case h_2 => exact absurd rfl h₂
  case h_3 => exact absurd rfl h₃
  case h_4 => exact absurd rfl h₄
  case h_5 => exact absurd rfl h₅
  case h_20 => exact absurd rfl h₆
  case h_6 | h_7 | h_8 | h_9 | h_10 | h_11 =>
    rw [Option.map_map]
    rfl
  case h_24 => split_ifs <;> rfl
  all_goals rfl

/-- An escape settles but for an edge of a word before empty braces. -/
theorem settles_readEscape (hu : Quiet u)
    (h : c = 'b' → ∀ v, u = '\x7b' :: v → skip flags v ≠ []) :
    Settles (fun cs => readEscape flags (c :: cs)) u := by
  by_cases hc : c ∈ ['x', 'u', 'U', 'p', 'P', 'b']
  · simp only [List.mem_cons, List.not_mem_nil, or_false] at hc
    rcases hc with rfl | rfl | rfl | rfl | rfl | rfl
    · exact (settles_readCode 2 hu).map flags.literal
    · exact (settles_readCode 4 hu).map flags.literal
    · exact (settles_readCode 8 hu).map flags.literal
    · exact settles_readProperty false hu
    · exact settles_readProperty true hu
    · exact (settles_readWordEdge hu (h rfl)).map fun edge =>
        Node.look (.word edge flags.unicode)
  · refine (settles_pure ((readEscape flags [c]).map (·.1)) u).congr fun t _ => ?_
    rw [readEscape_of_single hc, Option.map_map]
    rfl

namespace State

variable {s s' : State} {rest : List Char}

/-- Most tokens are one character. -/
theorem step_of_single (hc : c ∉ ['(', ')', '?', '*', '+', '\x7b', '[', '\\']) (cs : List Char) :
    s.step (c :: cs) = (s.step [c]).map fun x => (x.1, cs) := by
  simp only [List.mem_cons, List.not_mem_nil, or_false, not_or] at hc
  obtain ⟨h₁, h₂, h₃, h₄, h₅, h₆, h₇, h₈⟩ := hc
  simp only [step]
  split
  case h_1 => exact absurd rfl h₁
  case h_2 => exact absurd rfl h₂
  case h_4 => exact absurd rfl h₃
  case h_5 => exact absurd rfl h₄
  case h_6 => exact absurd rfl h₅
  case h_7 => exact absurd rfl h₆
  case h_8 => exact absurd rfl h₇
  case h_9 => exact absurd rfl h₈
  case h_10 => simp only [Option.map_map]; rfl
  all_goals rfl

/-- A token that begins with a quiet character settles. -/
theorem settles_step (hc : isQuiet c = true) (hu : Quiet u) :
    Settles (fun cs => s.step (c :: cs)) u := by
  by_cases hspecial : c ∈ ['(', ')', '?', '*', '+', '\x7b', '[', '\\']
  · simp only [List.mem_cons, List.not_mem_nil, or_false] at hspecial
    rcases hspecial with rfl | rfl | rfl | rfl | rfl | rfl | rfl | rfl
    case inr.inr.inl => exact settles_repeatMarked s 0 (some 1) u
    case inr.inr.inr.inl => exact settles_repeatMarked s 0 none u
    case inr.inr.inr.inr.inl => exact settles_repeatMarked s 1 none u
    case inr.inr.inr.inr.inr.inl =>
      have hcounts := settles_braced s.level.flags.verbose readCounts? hu
        fun _ => readCounts?_eq_none
      have hmarked := hcounts.bind fun counts rest hrest =>
        (settles_repeatMarked s counts.1 counts.2 _).skip s.level.flags (hu.of_suffix hrest)
      refine hmarked.congr fun t _ => ?_
      simp only [step, Option.bind_eq_bind, Option.bind_assoc, Option.bind_map]
      rfl
    all_goals exact absurd hc (by decide)
  · refine (settles_pure ((s.step [c]).map (·.1)) u).congr fun t _ => ?_
    rw [step_of_single hspecial, Option.map_map]
    rfl

theorem outer_of_repeatMarked {min : Nat} {max : Option Nat}
    (h : s.repeatMarked min max cs = some (s', rest)) : s'.outer = s.outer := by
  have hlast : ∀ {greedy : Bool} {s' : State}, s.repeatLast min max greedy = some s' →
      s'.outer = s.outer := by
    intro greedy s' h
    unfold repeatLast at h
    split at h
    · simp at h
    · split_ifs at h
      obtain rfl := Option.some.inj h
      rfl
  unfold repeatMarked at h
  split at h
  all_goals
    obtain ⟨repeated, hrepeated, heq⟩ := Option.map_eq_some_iff.mp h
    obtain ⟨rfl, rfl⟩ := Prod.mk.inj heq
    exact hlast hrepeated

/-- No token but a parenthesis opens or closes a group. -/
theorem outer_of_step (h : s.step (c :: cs) = some (s', rest)) (hopen : c ≠ '(') (hclose : c ≠ ')') :
    s'.outer = s.outer := by
  have hpush : ∀ {α : Type} {f : α → Piece} {read : Option (α × List Char)},
      read.map (fun x => (s.push (f x.1), x.2)) = some (s', rest) → s'.outer = s.outer := by
    intro α f read h
    obtain ⟨x, -, heq⟩ := Option.map_eq_some_iff.mp h
    obtain ⟨rfl, rfl⟩ := Prod.mk.inj heq
    rfl
  simp only [step] at h
  split at h
  case h_1 => exact absurd rfl hopen
  case h_2 => exact absurd rfl hclose
  case h_3 =>
    obtain ⟨rfl, rfl⟩ := Prod.mk.inj (Option.some.inj h)
    rfl
  case h_4 | h_5 | h_6 => exact outer_of_repeatMarked h
  case h_7 =>
    obtain ⟨⟨content, rest'⟩, -, h⟩ := Option.bind_eq_some_iff.mp h
    obtain ⟨⟨min, max⟩, -, h⟩ := Option.bind_eq_some_iff.mp h
    exact outer_of_repeatMarked h
  case h_8 => exact hpush (f := fun node => { node, height := 1 }) h
  all_goals exact hpush (f := fun node => { node }) h

end State

/-! ## Groups -/

theorem settles_readName (first : Bool) (hu : Quiet u) : Settles (readName first) u := by
  induction u generalizing first with
  | nil =>
    refine Or.inl fun t ht => ?_
    cases t with
    | nil => rfl
    | cons c t =>
      rcases isMark_iff.mp ht.isMark with rfl | rfl | rfl <;> cases first <;> rfl
  | cons c u ih =>
    by_cases hclose : c = '>'
    · refine .of_suffix (List.suffix_cons c u) (settles_pure (if first then none else some []) u)
        fun t _ => ?_
      rw [List.cons_append, readName, if_pos hclose]
      split_ifs <;> rfl
    · by_cases hname : isNameChar first c = true
      · refine .of_suffix (List.suffix_cons c u) ((ih false hu.tail).map (c :: ·)) fun t _ => ?_
        rw [List.cons_append, readName, if_neg hclose, if_pos hname]
      · refine Or.inl fun t _ => ?_
        rw [List.cons_append, readName, if_neg hclose, if_neg hname]

/-- What `read` makes of the quiet flags `u` before the mark `c` does not depend on what stands
behind it: it fails, it stops in front of a group body, or the mark is a parenthesis that ends the
flags. -/
def FlagsSettle (c : Char) (read : List Char → Option (Flags × List Flag × FlagsEnd × List Char))
    (u : List Char) : Prop :=
  (∀ x, read (u ++ c :: x) = none) ∨
    (∃ flags given rest, rest <:+ u ∧
      ∀ x, read (u ++ c :: x) = some (flags, given, .group, rest ++ c :: x)) ∨
    (c = ')' ∧ ∃ flags given, ∀ x, read (u ++ c :: x) = some (flags, given, .here, x))

theorem FlagsSettle.of_suffix
    {read read' : List Char → Option (Flags × List Flag × FlagsEnd × List Char)} (hv : v <:+ u)
    (h : FlagsSettle c read v) (heq : ∀ x, read' (u ++ c :: x) = read (v ++ c :: x)) :
    FlagsSettle c read' u := by
  rcases h with h | ⟨flags, given, rest, hrest, h⟩ | ⟨hclose, flags, given, h⟩
  · exact Or.inl fun x => (heq x).trans (h x)
  · exact Or.inr (Or.inl ⟨flags, given, rest, hrest.trans hv, fun x => (heq x).trans (h x)⟩)
  · exact Or.inr (Or.inr ⟨hclose, flags, given, fun x => (heq x).trans (h x)⟩)

theorem flagsSettle_readFlags (flags : Flags) (given : List Flag) (negated dangling : Bool) (hu : Quiet u)
    (hc : isMark c = true) : FlagsSettle c (readFlags flags given negated dangling) u := by
  induction u generalizing flags given negated dangling with
  | nil =>
    rcases isMark_iff.mp hc with rfl | rfl | rfl
    · exact Or.inl fun x => by simp [readFlags, Flag.ofChar?]
    · cases dangling with
      | true => exact Or.inl fun x => by simp [readFlags]
      | false => exact Or.inr (Or.inr ⟨rfl, flags, given, fun x => by simp [readFlags]⟩)
    · exact Or.inl fun x => by simp [readFlags, Flag.ofChar?]
  | cons d u ih =>
    have hparen : d ≠ ')' := ne_of_isQuiet hu.head rfl
    by_cases hcolon : d = ':'
    · subst hcolon
      cases dangling with
      | true => exact Or.inl fun x => by simp [readFlags]
      | false =>
        exact Or.inr (Or.inl ⟨flags, given, u, List.suffix_cons _ u, fun x => by simp [readFlags]⟩)
    by_cases hhyphen : d = '-'
    · subst hhyphen
      cases negated with
      | true => exact Or.inl fun x => by simp [readFlags]
      | false =>
        refine .of_suffix (List.suffix_cons _ u) (ih flags given true true hu.tail) fun x => ?_
        simp [readFlags]
    cases hflag : Flag.ofChar? d with
    | none => exact Or.inl fun x => by simp [readFlags, hflag]
    | some flag =>
      by_cases hgiven : flag ∈ given
      · exact Or.inl fun x => by simp [readFlags, hflag, hgiven]
      · refine .of_suffix (List.suffix_cons d u) 
          (ih (flags.set (!negated) flag) (flag :: given) negated false hu.tail) fun x => ?_
        simp [readFlags, hflag, hgiven]

namespace State

variable {s s' : State}

/-- What is read behind an opening parenthesis, with the quiet text `u` before the mark `c`, does not
depend on what stands behind the mark: it fails, it opens one group, or it takes up flags that end
with the mark. -/
def GroupSettles (s : State) (c : Char) (u : List Char) : Prop :=
  (∀ x, s.readGroup (u ++ c :: x) = none) ∨
    (∃ s' rest, s'.outer.length = s.outer.length + 1 ∧ rest <:+ u ∧
      ∀ x, s.readGroup (u ++ c :: x) = some (s', rest ++ c :: x)) ∨
    (c = ')' ∧ ∃ s', s'.outer = s.outer ∧ ∀ x, s.readGroup (u ++ c :: x) = some (s', x))

theorem length_outer_of_openCapture {name : Option String} (h : s.openCapture name = some s') :
    s'.outer.length = s.outer.length + 1 := by
  unfold openCapture at h
  split_ifs at h
  obtain rfl := Option.some.inj h
  rfl

theorem groupSettles_openCapture (hv : v <:+ u) (name : Option String)
    (h : ∀ x, s.readGroup (u ++ c :: x) = (s.openCapture name).map (·, v ++ c :: x)) :
    s.GroupSettles c u := by
  cases hopen : s.openCapture name with
  | none => exact Or.inl fun x => by rw [h, hopen, Option.map_none]
  | some s' =>
    exact Or.inr (Or.inl ⟨s', v, length_outer_of_openCapture hopen, hv,
      fun x => by rw [h, hopen, Option.map_some]⟩)

theorem groupSettles_openNamed (hu : Quiet u) (hc : isMark c = true) (hv : v <:+ u)
    (h : ∀ x, s.readGroup (u ++ c :: x) = s.openNamed (v ++ c :: x)) : s.GroupSettles c u := by
  have hmark : ∀ x, AtMark (c :: x) := fun x => .cons hc
  rcases settles_readName true (hu.of_suffix hv) with hname | ⟨name, rest, hrest, hname⟩
  · exact Or.inl fun x => by rw [h, openNamed, hname _ (hmark x), Option.bind_none]
  · refine groupSettles_openCapture (hrest.trans hv) (some (String.ofList name)) fun x => ?_
    rw [h, openNamed, hname _ (hmark x), Option.bind_some]

theorem groupSettles_takeFlags (hu : Quiet u) (hc : isMark c = true) (hv : v <:+ u)
    (h : ∀ x, s.readGroup (u ++ c :: x) =
      (readFlags s.level.flags [] false false (v ++ c :: x)).bind fun x =>
        (s.takeFlags x.1 x.2.1 x.2.2.1).map (·, x.2.2.2)) : s.GroupSettles c u := by
  rcases flagsSettle_readFlags s.level.flags [] false false (hu.of_suffix hv) hc with
    hflags | ⟨flags, given, rest, hrest, hflags⟩ | ⟨hclose, flags, given, hflags⟩
  · exact Or.inl fun x => by rw [h, hflags, Option.bind_none]
  · refine Or.inr (Or.inl ⟨s.openGroup .plain flags, rest, rfl, hrest.trans hv, fun x => ?_⟩)
    rw [h, hflags]
    rfl
  · cases htake : s.takeFlags flags given .here with
    | none => exact Or.inl fun x => by rw [h, hflags, Option.bind_some, htake, Option.map_none]
    | some s' =>
      have houter : s'.outer = s.outer := by
        unfold takeFlags at htake
        dsimp only at htake
        split_ifs at htake
        obtain rfl := Option.some.inj htake
        rfl
      refine Or.inr (Or.inr ⟨hclose, s', houter, fun x => ?_⟩)
      rw [h, hflags, Option.bind_some, htake, Option.map_some]

/-- A text that looks like look-around is refused. -/
theorem readGroup_of_look {d : Char} (h : skip s.level.flags cs = '?' :: d :: v)
    (hd : d = '=' ∨ d = '!') : s.readGroup cs = none := by
  rcases hd with rfl | rfl <;> simp [readGroup, h]

theorem readGroup_of_lookBehind {d : Char} (h : skip s.level.flags cs = '?' :: '<' :: d :: v)
    (hd : d = '=' ∨ d = '!') : s.readGroup cs = none := by
  rcases hd with rfl | rfl <;> simp [readGroup, h]

theorem readGroup_of_notNamed {d : Char} (h : skip s.level.flags cs = '?' :: 'P' :: d :: v)
    (hd : d ≠ '<') : s.readGroup cs = none := by
  simp [readGroup, h, hd, readFlags, Flag.ofChar?]

/-- The character behind the question mark tells the kind of the group. -/
theorem groupSettles_special {d : Char} (hu : Quiet u) (hc : isMark c = true)
    (hv : '?' :: d :: v <:+ u)
    (hskip : ∀ x, skip s.level.flags (u ++ c :: x) = '?' :: d :: (v ++ c :: x)) :
    s.GroupSettles c u := by
  have hne : ∀ d, isMark d = false → c ≠ d := fun d hd => ne_of_isMark hc hd
  by_cases hpython : d = 'P'
  · subst hpython
    cases v with
    | nil => exact Or.inl fun x => readGroup_of_notNamed (hskip x) (hne _ rfl)
    | cons e v =>
      by_cases he : e = '<'
      · subst he
        have hnamed : v <:+ u := List.IsSuffix.trans ⟨['?', 'P', '<'], rfl⟩ hv
        exact groupSettles_openNamed hu hc hnamed fun x => readGroup_of_python (hskip x)
      · exact Or.inl fun x => readGroup_of_notNamed (hskip x) he
  by_cases hangle : d = '<'
  · subst hangle
    cases v with
    | nil =>
      exact groupSettles_openNamed hu hc List.nil_suffix
        fun x => readGroup_of_angle (hskip x) (hne _ rfl) (hne _ rfl)
    | cons e v =>
      by_cases he : e = '=' ∨ e = '!'
      · exact Or.inl fun x => readGroup_of_lookBehind (hskip x) he
      · rw [not_or] at he
        have hnamed : e :: v <:+ u := List.IsSuffix.trans ⟨['?', '<'], rfl⟩ hv
        exact groupSettles_openNamed hu hc hnamed
          fun x => readGroup_of_angle (hskip x) he.1 he.2
  by_cases hlook : d = '=' ∨ d = '!'
  · exact Or.inl fun x => readGroup_of_look (hskip x) hlook
  · rw [not_or] at hlook
    exact groupSettles_takeFlags hu hc ((List.suffix_cons _ _).trans hv)
      fun x => readGroup_of_flags (hskip x) ⟨hlook.1, hlook.2, hangle, hpython⟩

theorem groupSettles_readGroup (hu : Quiet u) (hc : isMark c = true) : s.GroupSettles c u := by
  have hskip : ∀ x, skip s.level.flags (u ++ c :: x) = skip s.level.flags u ++ c :: x :=
    fun x => skip_quiet hu (.cons hc)
  have hv := skip_suffix s.level.flags hu
  have hne : ∀ d, isMark d = false → c ≠ d := fun d hd => ne_of_isMark hc hd
  generalize skip s.level.flags u = v at hskip hv
  cases v with
  | nil =>
    exact groupSettles_openCapture List.nil_suffix none
      fun x => readGroup_of_bare (hskip x) (hne '?' rfl)
  | cons d v =>
    by_cases hd : d = '?'
    · subst hd
      cases v with
      | nil =>
        refine groupSettles_takeFlags (v := []) hu hc List.nil_suffix fun x => ?_
        exact readGroup_of_flags (hskip x) ⟨hne _ rfl, hne _ rfl, hne _ rfl, hne _ rfl⟩
      | cons d v => exact groupSettles_special hu hc hv hskip
    · exact groupSettles_openCapture hv none fun x => readGroup_of_bare (hskip x) hd

end State

end Routing.Regex.Parser
