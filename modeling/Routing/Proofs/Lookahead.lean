import Mathlib.Tactic.Common
import Routing.Regex.Parser

/-!
# Proofs: how far ahead the reader looks

What the reader of regular expressions takes for one token is settled by the token and at most one
character behind it. So text that is put further behind changes nothing but what is left to read. As
long as nothing is skipped, a closing parenthesis can even be put directly behind a token.
-/

namespace Routing.Regex.Parser

/-- The text `r` can be put behind `rest`, what is left behind a token, without becoming a part of
that token: something is left anyway, or `r` begins with a closing parenthesis and nothing is
skipped. -/
def Apart (flags : Flags) (rest r : List Char) : Prop :=
  rest ≠ [] ∨ flags.verbose = false ∧ r.head? = some ')'

theorem skipIgnored_append {inComment : Bool} {cs cs' : List Char} {c : Char}
    (h : skipIgnored inComment cs = c :: cs') (r : List Char) :
    skipIgnored inComment (cs ++ r) = c :: (cs' ++ r) := by
  fun_induction skipIgnored inComment cs with
  | case1 => simp at h
  | case2 d ds ih => rw [List.cons_append, skipIgnored, if_pos rfl, ih h]
  | case3 inComment d ds hc hb ih => rw [List.cons_append, skipIgnored, if_neg hc, if_pos hb, ih h]
  | case4 inComment ds hc hb ih =>
    rw [List.cons_append, skipIgnored, if_neg hc, if_neg hb, if_pos rfl, ih h]
  | case5 inComment d ds hc hb hd =>
    obtain ⟨rfl, rfl⟩ := List.cons.inj h
    rw [List.cons_append, skipIgnored, if_neg hc, if_neg hb, if_neg hd]

/-- The first character that counts stays the first one, whatever is put behind the text. -/
theorem skip_append {flags : Flags} {cs cs' : List Char} {c : Char}
    (h : skip flags cs = c :: cs') (r : List Char) : skip flags (cs ++ r) = c :: (cs' ++ r) := by
  unfold skip at h ⊢
  split_ifs at h ⊢ with hv
  · exact skipIgnored_append h r
  · rw [h, List.cons_append]

/-- Braces that are closed are closed whatever follows. -/
theorem readBraced_append {verbose inComment : Bool} {cs content rest : List Char}
    (h : readBraced verbose inComment cs = some (content, rest)) (r : List Char) :
    readBraced verbose inComment (cs ++ r) = some (content, rest ++ r) := by
  fun_induction readBraced verbose inComment cs generalizing content with
  | case1 => simp at h
  | case2 d ds ih => rw [List.cons_append, readBraced, if_pos rfl, ih h]
  | case3 inComment d ds hc hb ih => rw [List.cons_append, readBraced, if_neg hc, if_pos hb, ih h]
  | case4 inComment d ds hc hb hd ih =>
    rw [List.cons_append, readBraced, if_neg hc, if_neg hb, if_pos hd, ih h]
  | case5 inComment ds hc hb hd =>
    obtain ⟨rfl, rfl⟩ := Prod.mk.inj (Option.some.inj h)
    rw [List.cons_append, readBraced, if_neg hc, if_neg hb, if_neg hd, if_pos rfl]
  | case6 inComment d ds hc hb hd hbrace ih =>
    obtain ⟨⟨inner, rest'⟩, hin, heq⟩ := Option.map_eq_some_iff.mp h
    obtain ⟨rfl, rfl⟩ := Prod.mk.inj heq
    rw [List.cons_append, readBraced, if_neg hc, if_neg hb, if_neg hd, if_neg hbrace, ih hin]
    rfl

/-- The digits of a code are counted, so that later ones do not matter. -/
theorem readHexDigits_append {flags : Flags} {count : Nat} {cs digits rest : List Char}
    (h : readHexDigits flags count cs = some (digits, rest)) (r : List Char) :
    readHexDigits flags count (cs ++ r) = some (digits, rest ++ r) := by
  induction count generalizing cs digits with
  | zero =>
    obtain ⟨rfl, rfl⟩ := Prod.mk.inj (Option.some.inj h)
    rfl
  | succ count ih =>
    unfold readHexDigits at h ⊢
    cases hskip : skip flags cs with
    | nil => rw [hskip] at h; simp at h
    | cons c cs' =>
      rw [hskip] at h
      rw [skip_append hskip]
      simp only at h ⊢
      split_ifs at h ⊢ with hc
      obtain ⟨⟨digits', rest'⟩, hin, heq⟩ := Option.map_eq_some_iff.mp h
      obtain ⟨rfl, rfl⟩ := Prod.mk.inj heq
      rw [ih hin]
      rfl

/-- The code of a character does not depend on what follows it. -/
theorem readCode_append {flags : Flags} {width : Nat} (hw : width ≠ 0) {cs rest : List Char}
    {d : Char} (h : readCode flags width cs = some (d, rest)) (r : List Char) :
    readCode flags width (cs ++ r) = some (d, rest ++ r) := by
  unfold readCode at h ⊢
  cases hskip : skip flags cs with
  | nil =>
    obtain ⟨width, rfl⟩ := Nat.exists_eq_succ_of_ne_zero hw
    rw [hskip] at h
    simp [readHexDigits, skip, skipIgnored] at h
  | cons c cs' =>
    rw [hskip] at h
    rw [skip_append hskip]
    by_cases hc : c = '\x7b'
    · subst hc
      simp only [Option.bind_eq_bind, Option.bind_eq_some_iff] at h ⊢
      obtain ⟨⟨digits, rest'⟩, hdigits, h⟩ := h
      refine ⟨(digits, rest' ++ r), readBraced_append hdigits r, ?_⟩
      split_ifs at h ⊢ with hempty
      · simp at h
      · obtain ⟨e, he, heq⟩ := Option.bind_eq_some_iff.mp h
        obtain ⟨rfl, rfl⟩ := Prod.mk.inj (Option.some.inj heq)
        exact Option.bind_eq_some_iff.mpr ⟨e, he, rfl⟩
    · split at h
      · rename_i heq
        exact absurd (List.cons.inj heq).1 hc
      split
      · rename_i heq
        exact absurd (List.cons.inj heq).1 hc
      simp only [Option.bind_eq_bind, Option.bind_eq_some_iff] at h ⊢
      obtain ⟨⟨digits, rest'⟩, hdigits, e, he, h⟩ := h
      refine ⟨(digits, rest' ++ r), readHexDigits_append hdigits r, e, he, ?_⟩
      split_ifs at h ⊢ with hbyte
      · simp at h
      · obtain ⟨rfl, rfl⟩ := Prod.mk.inj (Option.some.inj h)
        rfl

theorem readPropertyName_append {flags : Flags} {cs name rest : List Char}
    (h : readPropertyName flags cs = some (name, rest)) (r : List Char) :
    readPropertyName flags (cs ++ r) = some (name, rest ++ r) := by
  unfold readPropertyName at h ⊢
  cases hskip : skip flags cs with
  | nil => rw [hskip] at h; simp at h
  | cons c cs' =>
    rw [hskip] at h
    rw [skip_append hskip]
    split at h
    · simp at *
    · rename_i heq
      obtain ⟨rfl, rfl⟩ := List.cons.inj heq
      exact readBraced_append h r
    · simp at h
    · rename_i d ds hbrace hslash heq
      obtain ⟨rfl, rfl⟩ := List.cons.inj heq
      obtain ⟨rfl, rfl⟩ := Prod.mk.inj (Option.some.inj h)
      split <;> simp_all

/-- A change of what has been read does not touch the rest. -/
theorem map_append_of {α β : Type} {f : α → β} {read read' : Option (α × List Char)}
    {b : β} {rest r : List Char}
    (hread : ∀ a rest, read = some (a, rest) → read' = some (a, rest ++ r))
    (h : read.map (fun x => (f x.1, x.2)) = some (b, rest)) :
    read'.map (fun x => (f x.1, x.2)) = some (b, rest ++ r) := by
  obtain ⟨⟨a, rest'⟩, ha, heq⟩ := Option.map_eq_some_iff.mp h
  obtain ⟨rfl, rfl⟩ := Prod.mk.inj heq
  rw [hread a rest' ha]
  rfl

/-- What is read from nothing leaves all the rest. -/
theorem map_pair_append {α : Type} {read : Option α} {a : α} {cs rest : List Char} (r : List Char)
    (h : read.map (·, cs) = some (a, rest)) : read.map (·, cs ++ r) = some (a, rest ++ r) := by
  obtain ⟨b, rfl, heq⟩ := Option.map_eq_some_iff.mp h
  obtain ⟨rfl, rfl⟩ := Prod.mk.inj heq
  rfl

/-- A property does not depend on what follows its name. -/
theorem readProperty_append {flags : Flags} {negated : Bool} {cs rest : List Char} {node : Node}
    (h : readProperty flags negated cs = some (node, rest)) (r : List Char) :
    readProperty flags negated (cs ++ r) = some (node, rest ++ r) := by
  obtain ⟨⟨name, rest'⟩, hname, h⟩ := Option.bind_eq_some_iff.mp h
  exact Option.bind_eq_some_iff.mpr
    ⟨(name, rest' ++ r), readPropertyName_append hname r, map_pair_append r h⟩

/-- The edge of a word is the same whatever follows, as long as this is apart from it. -/
theorem readWordEdge_append {flags : Flags} {cs rest r : List Char} {edge : WordEdge}
    (h : readWordEdge flags cs = some (edge, rest)) (hr : Apart flags rest r) :
    readWordEdge flags (cs ++ r) = some (edge, rest ++ r) := by
  cases cs with
  | nil =>
    obtain ⟨rfl, rfl⟩ := Prod.mk.inj (Option.some.inj h)
    rcases hr with hrest | ⟨-, hclose⟩
    · exact absurd rfl hrest
    · obtain ⟨r, rfl⟩ := List.head?_eq_some_iff.mp hclose
      rfl
  | cons c inside =>
    by_cases hc : c = '\x7b'
    · subst hc
      simp only [readWordEdge, List.cons_append] at h ⊢
      cases hskip : skip flags inside with
      | nil => rw [hskip] at h; simp at h
      | cons d ds =>
        rw [hskip] at h
        rw [skip_append hskip]
        simp only at h ⊢
        split_ifs at h ⊢ with hd
        · obtain ⟨⟨name, rest'⟩, hname, h⟩ := Option.bind_eq_some_iff.mp h
          refine Option.bind_eq_some_iff.mpr ⟨(name, rest' ++ r), readBraced_append hname r, ?_⟩
          simp only at h ⊢
          split at h <;> simp_all
        · obtain ⟨rfl, rfl⟩ := Prod.mk.inj (Option.some.inj h)
          rfl
    · unfold readWordEdge at h ⊢
      split at h
      · simp_all
      · obtain ⟨rfl, rfl⟩ := Prod.mk.inj (Option.some.inj h)
        rw [List.cons_append]
        split <;> simp_all

/-- An escape is the same whatever follows, as long as this is apart from it. -/
theorem readEscape_append {flags : Flags} {cs rest r : List Char} {node : Node}
    (h : readEscape flags cs = some (node, rest)) (hr : Apart flags rest r) :
    readEscape flags (cs ++ r) = some (node, rest ++ r) := by
  cases cs with
  | nil => simp [readEscape] at h
  | cons c cs =>
    have hcode : ∀ {width : Nat}, width ≠ 0 → ∀ a rest, readCode flags width cs = some (a, rest) →
        readCode flags width (cs ++ r) = some (a, rest ++ r) :=
      fun hw _ _ h => readCode_append hw h r
    rw [List.cons_append]
    simp only [readEscape] at h ⊢
    split at h
    case h_1 | h_2 | h_3 => exact map_append_of (hcode (by decide)) h
    case h_4 | h_5 => exact readProperty_append h r
    case h_6 | h_7 | h_8 | h_9 | h_10 | h_11 => exact map_pair_append r h
    case h_20 =>
      obtain ⟨⟨edge, rest'⟩, hedge, heq⟩ := Option.map_eq_some_iff.mp h
      obtain ⟨rfl, rfl⟩ := Prod.mk.inj heq
      rw [readWordEdge_append hedge hr]
      rfl
    case h_24 =>
      split_ifs at h ⊢
      obtain ⟨rfl, rfl⟩ := Prod.mk.inj (Option.some.inj h)
      rfl
    all_goals
      obtain ⟨rfl, rfl⟩ := Prod.mk.inj (Option.some.inj h)
      rfl

theorem readMembers_append {cs rest : List Char} {table : Unicode.RangeTable}
    (h : readMembers cs = some (table, rest)) (r : List Char) :
    readMembers (cs ++ r) = some (table, rest ++ r) := by
  fun_induction readMembers cs generalizing table with
  | case1 => simp at h
  | case2 cs =>
    obtain ⟨rfl, rfl⟩ := Prod.mk.inj (Option.some.inj h)
    rfl
  | case3 c cs hc =>
    obtain ⟨rfl, rfl⟩ := Prod.mk.inj (Option.some.inj h)
    simp [readMembers]
  | case4 c d cs hc hd hlt => simp at h
  | case5 c d cs hc hd hlt ih =>
    obtain ⟨⟨table', rest'⟩, hin, heq⟩ := Option.map_eq_some_iff.mp h
    obtain ⟨rfl, rfl⟩ := Prod.mk.inj heq
    simp [readMembers, hlt, ih hin]
  | case6 c cs hc hclose hrange ih =>
    obtain ⟨⟨table', rest'⟩, hin, heq⟩ := Option.map_eq_some_iff.mp h
    obtain ⟨rfl, rfl⟩ := Prod.mk.inj heq
    -- a hyphen at the end would leave the class open, so what follows cannot make a range
    have hno : ∀ d ds, cs ++ r ≠ '-' :: d :: ds := by
      intro d ds heq
      match cs, hin with
      | [], hin => simp [readMembers] at hin
      | [x], hin =>
        obtain rfl : x = '-' := (List.cons.inj heq).1
        simp [readMembers] at hin
      | x :: y :: ys, _ =>
        obtain ⟨rfl, heq⟩ := List.cons.inj heq
        exact hrange y ys rfl
    rw [List.cons_append, readMembers]
    · rw [ih hin]
      rfl
    · exact fun hc' => hc hc'
    · exact fun ds heq => hno _ _ heq
    · exact fun d ds heq => hno _ _ heq

/-- A class that is closed is closed whatever follows. -/
theorem readClass_append {flags : Flags} {cs rest : List Char} {node : Node}
    (h : readClass flags cs = some (node, rest)) (r : List Char) :
    readClass flags (cs ++ r) = some (node, rest ++ r) := by
  have hmembers : ∀ {negated : Bool} {members : List Char},
      ((readMembers members).bind fun x =>
        (flags.complement? negated (flags.close (.ranges x.1))).bind fun node =>
          some (node, x.2)) = some (node, rest) →
      ((readMembers (members ++ r)).bind fun x =>
        (flags.complement? negated (flags.close (.ranges x.1))).bind fun node =>
          some (node, x.2)) = some (node, rest ++ r) := by
    intro negated members h
    obtain ⟨⟨table, rest'⟩, htable, h⟩ := Option.bind_eq_some_iff.mp h
    obtain ⟨node', hnode, heq⟩ := Option.bind_eq_some_iff.mp h
    obtain ⟨rfl, rfl⟩ := Prod.mk.inj (Option.some.inj heq)
    rw [readMembers_append htable r, Option.bind_some, hnode]
    rfl
  cases cs with
  | nil => simp [readClass, readMembers] at h
  | cons c cs =>
    by_cases hc : c = '^'
    · subst hc
      exact hmembers h
    · have hopen : ∀ cs : List Char, readClass flags (c :: cs) =
          (readMembers (c :: cs)).bind fun x =>
            (flags.complement? false (flags.close (.ranges x.1))).bind fun node =>
              some (node, x.2) := by
        intro cs
        unfold readClass
        split
        rename_i heq
        split at heq
        · rename_i heq'
          exact absurd (List.cons.inj heq').1 hc
        · obtain ⟨rfl, rfl⟩ := Prod.mk.inj heq
          rfl
      rw [hopen] at h
      rw [List.cons_append, hopen]
      exact hmembers h

/-- Flags end with a colon or a parenthesis, and do not depend on what follows it. -/
theorem readFlags_append {flags flags' : Flags} {given given' : List Flag}
    {negated dangling : Bool} {cs rest : List Char} {stop : FlagsEnd}
    (h : readFlags flags given negated dangling cs = some (flags', given', stop, rest))
    (r : List Char) :
    readFlags flags given negated dangling (cs ++ r) = some (flags', given', stop, rest ++ r) := by
  fun_induction readFlags flags given negated dangling cs with
  | case3 flags given negated dangling cs hd | case5 flags given negated dangling cs hd =>
    simp only [Option.some.injEq, Prod.mk.injEq] at h
    obtain ⟨rfl, rfl, rfl, rfl⟩ := h
    simp [readFlags, hd]
  | case7 flags given negated dangling cs hn ih => simp [readFlags, hn, ih h]
  | case10 flags given negated dangling c cs hcolon hclose hminus flag hflag hnew ih =>
    simp [readFlags, hflag, hnew, ih h]
  | _ => simp at h

/-- The name of a group ends with its bracket. -/
theorem readName_append {first : Bool} {cs name rest : List Char}
    (h : readName first cs = some (name, rest)) (r : List Char) :
    readName first (cs ++ r) = some (name, rest ++ r) := by
  fun_induction readName first cs generalizing name with
  | case3 first cs hfirst =>
    obtain ⟨rfl, rfl⟩ := Prod.mk.inj (Option.some.inj h)
    simp [readName, hfirst]
  | case4 first c cs hc hname ih =>
    obtain ⟨⟨name', rest'⟩, hin, heq⟩ := Option.map_eq_some_iff.mp h
    obtain ⟨rfl, rfl⟩ := Prod.mk.inj heq
    simp [readName, hc, hname, ih hin]
  | _ => simp at h

namespace State

variable {s s' : State} {cs rest r : List Char}

/-- A repetition is the same whatever follows, as long as this is apart from it. -/
theorem repeatMarked_append {flags : Flags} {min : Nat} {max : Option Nat}
    (h : s.repeatMarked min max cs = some (s', rest)) (hr : Apart flags rest r) :
    s.repeatMarked min max (cs ++ r) = some (s', rest ++ r) := by
  cases cs with
  | nil =>
    obtain ⟨repeated, hrepeated, heq⟩ := Option.map_eq_some_iff.mp h
    obtain ⟨rfl, rfl⟩ := Prod.mk.inj heq
    rcases hr with hrest | ⟨-, hclose⟩
    · exact absurd rfl hrest
    · obtain ⟨r, rfl⟩ := List.head?_eq_some_iff.mp hclose
      exact Option.map_eq_some_iff.mpr ⟨repeated, hrepeated, rfl⟩
  | cons c cs =>
    by_cases hc : c = '?'
    · subst hc
      exact map_pair_append r h
    · have hopen : ∀ cs : List Char, s.repeatMarked min max (c :: cs) =
          (s.repeatLast min max true).map (·, c :: cs) := by
        intro cs
        unfold repeatMarked
        split
        · rename_i heq
          exact absurd (List.cons.inj heq).1 hc
        · rfl
      rw [hopen] at h
      rw [List.cons_append, hopen, ← List.cons_append]
      exact map_pair_append r h

/-- Flags begin with none of the characters that mark another kind of group. -/
theorem head_of_readFlags {flags : Flags} {c : Char} {cs : List Char}
    {read : Flags × List Flag × FlagsEnd × List Char}
    (h : readFlags flags [] false false (c :: cs) = some read) :
    c ≠ '=' ∧ c ≠ '!' ∧ c ≠ '<' ∧ c ≠ 'P' := by
  refine ⟨?_, ?_, ?_, ?_⟩ <;> rintro rfl <;> simp [readFlags, Flag.ofChar?] at h

theorem openNamed_append (h : s.openNamed cs = some (s', rest)) (r : List Char) :
    s.openNamed (cs ++ r) = some (s', rest ++ r) := by
  obtain ⟨⟨name, rest'⟩, hname, h⟩ := Option.bind_eq_some_iff.mp h
  exact Option.bind_eq_some_iff.mpr
    ⟨(name, rest' ++ r), readName_append hname r, map_pair_append r h⟩

/-! ### The kinds of groups -/

theorem readGroup_of_python {named : List Char}
    (h : skip s.level.flags cs = '?' :: 'P' :: '<' :: named) :
    s.readGroup cs = s.openNamed named := by
  rw [readGroup, h]
  rfl

theorem readGroup_of_angle {c : Char} {named : List Char}
    (h : skip s.level.flags cs = '?' :: '<' :: c :: named) (h₁ : c ≠ '=') (h₂ : c ≠ '!') :
    s.readGroup cs = s.openNamed (c :: named) := by
  simp [readGroup, h, h₁, h₂]

theorem readGroup_of_flags {c : Char} {flagged : List Char}
    (h : skip s.level.flags cs = '?' :: c :: flagged)
    (hc : c ≠ '=' ∧ c ≠ '!' ∧ c ≠ '<' ∧ c ≠ 'P') :
    s.readGroup cs = (readFlags s.level.flags [] false false (c :: flagged)).bind fun x =>
      (s.takeFlags x.1 x.2.1 x.2.2.1).map (·, x.2.2.2) := by
  obtain ⟨h₁, h₂, h₃, h₄⟩ := hc
  simp [readGroup, h, h₁, h₂, h₃, h₄]

theorem readGroup_of_bare {c : Char} {body : List Char} (h : skip s.level.flags cs = c :: body)
    (hc : c ≠ '?') : s.readGroup cs = (s.openCapture none).map (·, c :: body) := by
  simp [readGroup, h, hc]

/-- The beginning of a group is the same whatever follows, as long as this is apart from it. -/
theorem readGroup_append (h : s.readGroup cs = some (s', rest))
    (hr : Apart s.level.flags rest r) : s.readGroup (cs ++ r) = some (s', rest ++ r) := by
  unfold readGroup at h
  split at h
  · simp at h
  · simp at h
  · simp at h
  · simp at h
  · rename_i named hskip
    rw [readGroup_of_python (skip_append hskip r)]
    exact openNamed_append h r
  · rename_i named hequal hbang hskip
    cases named with
    | nil => simp [openNamed, readName] at h
    | cons c named =>
      rw [readGroup_of_angle (skip_append hskip r) (fun hc => hequal named (hc ▸ rfl))
        (fun hc => hbang named (hc ▸ rfl))]
      exact openNamed_append h r
  · rename_i flagged _ _ _ _ _ _ hskip
    obtain ⟨⟨flags, given, stop, rest'⟩, hflags, htake⟩ := Option.bind_eq_some_iff.mp h
    cases flagged with
    | nil => simp [readFlags] at hflags
    | cons c flagged =>
      rw [readGroup_of_flags (skip_append hskip r) (head_of_readFlags hflags)]
      exact Option.bind_eq_some_iff.mpr
        ⟨(flags, given, stop, rest' ++ r), readFlags_append hflags r, map_pair_append r htake⟩
  · rename_i hc
    cases hskip : skip s.level.flags cs with
    | nil =>
      rw [hskip] at h
      obtain ⟨opened, hopened, heq⟩ := Option.map_eq_some_iff.mp h
      obtain ⟨rfl, rfl⟩ := Prod.mk.inj heq
      rcases hr with hrest | ⟨hverbose, hclose⟩
      · exact absurd rfl hrest
      · obtain ⟨r, rfl⟩ := List.head?_eq_some_iff.mp hclose
        obtain rfl : cs = [] := by simpa [skip, hverbose] using hskip
        have hbare : skip s.level.flags (')' :: r) = ')' :: r := by simp [skip, hverbose]
        rw [List.nil_append, readGroup_of_bare hbare (by decide)]
        exact Option.map_eq_some_iff.mpr ⟨opened, hopened, rfl⟩
    | cons c body =>
      rw [hskip] at h
      rw [readGroup_of_bare (skip_append hskip r) (fun hq => hc body (hq ▸ hskip))]
      exact map_pair_append r h

/-- A token that is read with something behind it is read with anything more behind that. -/
theorem step_append (h : s.step cs = some (s', rest)) (hr : Apart s.level.flags rest r) :
    s.step (cs ++ r) = some (s', rest ++ r) := by
  cases cs with
  | nil => simp [step] at h
  | cons c cs =>
    rw [List.cons_append]
    simp only [step] at h ⊢
    split at h
    case h_1 => exact readGroup_append h hr
    case h_2 => exact map_pair_append r h
    case h_4 | h_5 | h_6 => exact repeatMarked_append h hr
    case h_7 =>
      obtain ⟨⟨content, rest'⟩, hcontent, h⟩ := Option.bind_eq_some_iff.mp h
      obtain ⟨⟨min, max⟩, hcounts, h⟩ := Option.bind_eq_some_iff.mp h
      refine Option.bind_eq_some_iff.mpr ⟨(content, rest' ++ r), readBraced_append hcontent r, ?_⟩
      refine Option.bind_eq_some_iff.mpr ⟨(min, max), hcounts, ?_⟩
      cases hskip : skip s.level.flags rest' with
      | nil =>
        simp only [hskip] at h
        obtain ⟨repeated, hrepeated, heq⟩ := Option.map_eq_some_iff.mp h
        obtain ⟨rfl, rfl⟩ := Prod.mk.inj heq
        rcases hr with hrest | ⟨hverbose, hclose⟩
        · exact absurd rfl hrest
        · obtain ⟨r, rfl⟩ := List.head?_eq_some_iff.mp hclose
          obtain rfl : rest' = [] := by simpa [skip, hverbose] using hskip
          simp only [List.nil_append, skip, hverbose, Bool.false_eq_true, if_false]
          exact Option.map_eq_some_iff.mpr ⟨repeated, hrepeated, rfl⟩
      | cons d ds =>
        simp only [hskip] at h
        simp only [skip_append hskip]
        exact repeatMarked_append h hr
    case h_8 =>
      refine map_append_of (f := fun node => s.push { node, height := 1 }) ?_ h
      exact fun _ _ h => readClass_append h r
    case h_9 =>
      obtain ⟨⟨node, rest'⟩, hnode, heq⟩ := Option.map_eq_some_iff.mp h
      obtain ⟨rfl, rfl⟩ := Prod.mk.inj heq
      rw [readEscape_append hnode hr]
      rfl
    case h_10 => exact map_append_of (f := s.pushNode) (fun _ _ => map_pair_append r) h
    all_goals
      obtain ⟨rfl, rfl⟩ := Prod.mk.inj (Option.some.inj h)
      rfl

end State

end Routing.Regex.Parser
