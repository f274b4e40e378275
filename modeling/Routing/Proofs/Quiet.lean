import Routing.Proofs.PropertyNames
import Routing.Regex.Parser

/-!
# Proofs: readers of quiet text

Parentheses and backslashes mark the borders between tokens: no number, name, property or count has
one in it. So what the reader makes of the text up to the next mark does not depend on what the mark
is, and it is the same if the text ends there.
-/

namespace Routing.Regex.Parser

/-- Whether the character opens or closes a group or changes what the next character means. -/
def isMark (c : Char) : Bool :=
  c = '(' || c = ')' || c = '\\'

/-- Whether the character is no mark and begins neither a class nor a comment. -/
def isQuiet (c : Char) : Bool :=
  !isMark c && c ≠ '[' && c ≠ '#'

/-- All characters are quiet. -/
def Quiet (u : List Char) : Prop :=
  ∀ c ∈ u, isQuiet c = true

/-- Nothing is left, or a mark comes next. -/
def AtMark (t : List Char) : Prop :=
  ∀ c ∈ t.head?, isMark c = true

variable {flags : Flags} {u t v cs content : List Char} {c d : Char}

theorem Quiet.of_suffix (hu : Quiet u) (h : v <:+ u) : Quiet v :=
  fun c hc => hu c (h.subset hc)

theorem Quiet.head (h : Quiet (c :: u)) : isQuiet c = true :=
  h c List.mem_cons_self

theorem Quiet.tail (h : Quiet (c :: u)) : Quiet u :=
  h.of_suffix (List.suffix_cons c u)

theorem isMark_iff : isMark c = true ↔ c = '(' ∨ c = ')' ∨ c = '\\' := by
  simp [isMark, or_assoc]

theorem isMark_of_isQuiet (hc : isQuiet c = true) : isMark c = false := by
  simp only [isQuiet, Bool.and_eq_true, Bool.not_eq_true'] at hc
  exact hc.1.1

theorem ne_of_isQuiet (hc : isQuiet c = true) (hd : isQuiet d = false) : c ≠ d := by
  rintro rfl
  rw [hc] at hd
  exact absurd hd (by decide)

theorem ne_of_isMark (hc : isMark c = true) (hd : isMark d = false) : c ≠ d := by
  rintro rfl
  rw [hc] at hd
  exact absurd hd (by decide)

theorem AtMark.nil : AtMark [] := by
  simp [AtMark]

theorem AtMark.cons (hc : isMark c = true) : AtMark (c :: t) := by
  simpa [AtMark] using hc

/-- Two texts that begin with a mark, if with anything, make up one that does. -/
theorem AtMark.append (ht : AtMark t) (hv : AtMark v) : AtMark (t ++ v) := by
  cases t with
  | nil => exact hv
  | cons c t => exact .cons (ht c rfl)

theorem AtMark.isMark (h : AtMark (c :: t)) : isMark c = true :=
  h c rfl

/-! ## What is skipped -/

/-- Marks are never skipped, with the flag `x` or without it. -/
theorem skip_atMark (flags : Flags) (ht : AtMark t) : skip flags t = t := by
  unfold skip
  cases t with
  | nil => split_ifs <;> rfl
  | cons c t =>
    have hblank : Text.isBlank c = false := by
      rcases isMark_iff.mp ht.isMark with rfl | rfl | rfl <;> rfl
    have hcomment : c ≠ '#' := ne_of_isMark ht.isMark rfl
    split_ifs
    · simp [skipIgnored, hblank, hcomment]
    · rfl

/-- The skip from quiet text does not reach beyond the next mark. -/
theorem skip_quiet (hu : Quiet u) (ht : AtMark t) : skip flags (u ++ t) = skip flags u ++ t := by
  have hmark := skip_atMark flags ht
  unfold skip at hmark ⊢
  split_ifs at hmark ⊢ with hverbose
  · induction u with
    | nil => exact hmark
    | cons c u ih =>
      have hcomment : c ≠ '#' := ne_of_isQuiet hu.head rfl
      by_cases hblank : Text.isBlank c = true
      · simpa [skipIgnored, hblank] using ih hu.tail
      · simp [skipIgnored, hblank, hcomment]
  · rfl

theorem skip_suffix (flags : Flags) (hu : Quiet u) : skip flags u <:+ u := by
  unfold skip
  split_ifs with hverbose
  · induction u with
    | nil => exact List.suffix_refl _
    | cons c u ih =>
      have hcomment : c ≠ '#' := ne_of_isQuiet hu.head rfl
      by_cases hblank : Text.isBlank c = true
      · rw [skipIgnored, if_neg (by decide), if_pos hblank]
        exact (ih hu.tail).trans (List.suffix_cons c u)
      · have hkept : skipIgnored false (c :: u) = c :: u := by
          rw [skipIgnored, if_neg (by decide), if_neg hblank, if_neg hcomment]
        exact ⟨[], hkept⟩
  · exact List.suffix_refl _

/-! ## Readers of quiet text -/

/-- What `read` makes of the quiet text `u` does not depend on what the next mark is: it fails
whatever comes, or it takes the same part of `u`. -/
def Settles {α : Type} (read : List Char → Option (α × List Char)) (u : List Char) : Prop :=
  (∀ t, AtMark t → read (u ++ t) = none) ∨
    ∃ a rest, rest <:+ u ∧ ∀ t, AtMark t → read (u ++ t) = some (a, rest ++ t)

section Readers

variable {α β : Type} {read read' : List Char → Option (α × List Char)}

theorem settles_pure (value : Option α) (u : List Char) :
    Settles (fun cs => value.map (·, cs)) u := by
  cases value with
  | none => exact Or.inl fun _ _ => rfl
  | some a => exact Or.inr ⟨a, u, List.suffix_refl u, fun _ _ => rfl⟩

/-- One reader after the other settles if the second settles on all that the first may leave. -/
theorem Settles.bind {next : α → List Char → Option (β × List Char)} (h : Settles read u)
    (hnext : ∀ a rest, rest <:+ u → Settles (next a) rest) :
    Settles (fun cs => (read cs).bind fun x => next x.1 x.2) u := by
  rcases h with h | ⟨a, rest, hrest, h⟩
  · exact Or.inl fun t ht => by simp only [h t ht, Option.bind_none]
  · rcases hnext a rest hrest with hfail | ⟨b, rest', hrest', hread⟩
    · exact Or.inl fun t ht => by simp only [h t ht, Option.bind_some, hfail t ht]
    · refine Or.inr ⟨b, rest', hrest'.trans hrest, fun t ht => ?_⟩
      simp only [h t ht, Option.bind_some, hread t ht]

/-- A reader settles whose result is put to a test or turned into something else. -/
theorem Settles.check (value? : α → Option β) (h : Settles read u) :
    Settles (fun cs => (read cs).bind fun x => (value? x.1).map (·, x.2)) u :=
  h.bind fun a rest _ => settles_pure (value? a) rest

theorem Settles.map (f : α → β) (h : Settles read u) :
    Settles (fun cs => (read cs).map fun x => (f x.1, x.2)) u := by
  rcases h with h | ⟨a, rest, hrest, h⟩
  · exact Or.inl fun t ht => by simp only [h t ht, Option.map_none]
  · exact Or.inr ⟨f a, rest, hrest, fun t ht => by simp only [h t ht, Option.map_some]⟩

theorem Settles.congr (h : Settles read u) (heq : ∀ t, AtMark t → read' (u ++ t) = read (u ++ t)) :
    Settles read' u := by
  rcases h with h | ⟨a, rest, hrest, h⟩
  · exact Or.inl fun t ht => (heq t ht).trans (h t ht)
  · exact Or.inr ⟨a, rest, hrest, fun t ht => (heq t ht).trans (h t ht)⟩

/-- A reader settles that goes on at a later place, whatever the next mark is, and settles from there. -/
theorem Settles.of_suffix (hv : v <:+ u) (h : Settles read v)
    (heq : ∀ t, AtMark t → read' (u ++ t) = read (v ++ t)) : Settles read' u := by
  rcases h with h | ⟨a, rest, hrest, h⟩
  · exact Or.inl fun t ht => (heq t ht).trans (h t ht)
  · exact Or.inr ⟨a, rest, hrest.trans hv, fun t ht => (heq t ht).trans (h t ht)⟩

/-- A reader settles that first skips what does not count. -/
theorem Settles.skip (flags : Flags) (hu : Quiet u) (h : Settles read (skip flags u)) :
    Settles (fun cs => read (Parser.skip flags cs)) u :=
  .of_suffix (skip_suffix flags hu) h fun t ht => by rw [skip_quiet hu ht]

/-! ### Braces -/

/-- Braces are closed in the quiet text itself, or what they hold has the next mark in it. -/
theorem readBraced_quiet (verbose : Bool) (hu : Quiet u) :
    (∃ content rest, rest <:+ u ∧ ∀ t, AtMark t →
        readBraced verbose false (u ++ t) = some (content, rest ++ t)) ∨
      ∀ t, AtMark t → ∀ content rest, readBraced verbose false (u ++ t) = some (content, rest) →
        ∃ c ∈ content, isMark c = true := by
  induction u with
  | nil =>
    -- the mark itself is in what the braces hold
    refine Or.inr fun t ht content rest h => ?_
    cases t with
    | nil => simp [readBraced] at h
    | cons c t =>
      have hblank : Text.isBlank c = false := by
        rcases isMark_iff.mp ht.isMark with rfl | rfl | rfl <;> rfl
      have hcomment : c ≠ '#' := ne_of_isMark ht.isMark rfl
      have hbrace : c ≠ '\x7d' := ne_of_isMark ht.isMark rfl
      simp only [List.nil_append, readBraced, hblank, hcomment, hbrace, if_false,
        Bool.false_eq_true, Bool.and_false, decide_false] at h
      obtain ⟨x, -, heq⟩ := Option.map_eq_some_iff.mp h
      obtain ⟨rfl, -⟩ := Prod.mk.inj heq
      exact ⟨c, List.mem_cons_self, ht.isMark⟩
  | cons c u ih =>
    have hcomment : c ≠ '#' := ne_of_isQuiet hu.head rfl
    by_cases hblank : (verbose && Text.isBlank c) = true
    · have hskip : ∀ t, readBraced verbose false (c :: u ++ t) =
          readBraced verbose false (u ++ t) := by
        intro t
        rw [List.cons_append, readBraced, if_neg (by decide), if_pos hblank]
      rcases ih hu.tail with ⟨content, rest, hrest, h⟩ | h
      · exact Or.inl ⟨content, rest, hrest.trans (List.suffix_cons c u),
          fun t ht => (hskip t).trans (h t ht)⟩
      · exact Or.inr fun t ht content rest hread => h t ht content rest ((hskip t).symm.trans hread)
    by_cases hbrace : c = '\x7d'
    · subst hbrace
      refine Or.inl ⟨[], u, List.suffix_cons _ u, fun t _ => ?_⟩
      simp [readBraced, hblank]
    · have htake : ∀ t, readBraced verbose false (c :: u ++ t) =
          (readBraced verbose false (u ++ t)).map fun x => (c :: x.1, x.2) := by
        intro t
        simp [readBraced, hblank, hcomment, hbrace]
      rcases ih hu.tail with ⟨content, rest, hrest, h⟩ | h
      · refine Or.inl ⟨c :: content, rest, hrest.trans (List.suffix_cons c u), fun t ht => ?_⟩
        rw [htake, h t ht, Option.map_some]
      · refine Or.inr fun t ht content rest hread => ?_
        rw [htake] at hread
        obtain ⟨⟨inner, rest'⟩, hinner, heq⟩ := Option.map_eq_some_iff.mp hread
        obtain ⟨rfl, rfl⟩ := Prod.mk.inj heq
        obtain ⟨d, hd, hmark⟩ := h t ht inner rest' hinner
        exact ⟨d, List.mem_cons_of_mem c hd, hmark⟩

theorem readBraced_of_skipIgnored {inComment : Bool} (h : skipIgnored inComment cs = []) :
    readBraced true inComment cs = none := by
  fun_induction skipIgnored inComment cs with
  | case1 => rfl
  | case2 d ds ih => rw [readBraced, if_pos rfl, ih h]
  | case3 inComment d ds hc hb ih => rw [readBraced, if_neg hc, if_pos (by simpa using hb), ih h]
  | case4 inComment ds hc hb ih =>
    rw [readBraced, if_neg hc, if_neg (by simpa using hb), if_pos (by simp), ih h]
  | case5 => simp at h

/-- Braces that hold only what is skipped are not closed. -/
theorem readBraced_eq_none (h : skip flags cs = []) :
    readBraced flags.verbose false cs = none := by
  unfold skip at h
  split_ifs at h with hverbose
  · rw [hverbose]
    exact readBraced_of_skipIgnored h
  · rw [h]
    rfl

/-- Braces settle if no value is found in a text with a mark in it. -/
theorem settles_braced (verbose : Bool) (value? : List Char → Option α) (hu : Quiet u)
    (hmark : ∀ content, (∃ c ∈ content, isMark c = true) → value? content = none) :
    Settles (fun cs => (readBraced verbose false cs).bind fun x => (value? x.1).map (·, x.2)) u := by
  rcases readBraced_quiet verbose hu with ⟨content, rest, hrest, h⟩ | h
  · have hread : Settles (readBraced verbose false) u := Or.inr ⟨content, rest, hrest, h⟩
    exact hread.check value?
  · refine Or.inl fun t ht => ?_
    cases hread : readBraced verbose false (u ++ t) with
    | none => simp only [hread, Option.bind_none]
    | some x =>
      simp only [hread, Option.bind_some, hmark x.1 (h t ht x.1 x.2 hread), Option.map_none]

end Readers

/-- A character that is no digit keeps a text from being a number. -/
theorem numeral?_eq_none {base : Nat} {value? : Char → Option Nat} {digits : List Char}
    (hc : c ∈ digits) (hvalue : value? c = none) : Text.numeral? base value? digits = none := by
  have hfold : ∀ n : Nat,
      digits.foldlM (fun n c => (value? c).map (base * n + ·)) n = none := by
    induction digits with
    | nil => simp at hc
    | cons d digits ih =>
      intro n
      rw [List.foldlM_cons]
      rcases List.mem_cons.mp hc with rfl | hc
      · rw [hvalue]
        rfl
      · cases hd : value? d with
        | none => rfl
        | some m => exact ih hc _
  exact hfold 0

/-- A character that is not stripped stays. -/
theorem mem_stripWhile {p : Char → Bool} (hc : c ∈ cs) (hp : p c = false) :
    c ∈ Text.stripWhile p cs := by
  have hdrop : ∀ cs : List Char, c ∈ cs → c ∈ cs.dropWhile p := by
    intro cs hc
    induction cs with
    | nil => exact hc
    | cons d cs ih =>
      rcases List.mem_cons.mp hc with rfl | hc
      · rw [List.dropWhile_cons_of_neg (by simp [hp])]
        exact List.mem_cons_self
      · rw [List.dropWhile_cons]
        split_ifs
        · exact ih hc
        · exact List.mem_cons_of_mem d hc
  rw [Text.stripWhile, Text.dropEndWhile, List.mem_reverse]
  exact hdrop _ (List.mem_reverse.mpr (hdrop cs hc))

theorem hexValue?_of_isMark (hc : isMark c = true) : Text.hexValue? c = none := by
  rcases isMark_iff.mp hc with rfl | rfl | rfl <;> rfl

theorem readCount?_eq_none {digits : List Char} (hc : c ∈ digits) (hmark : isMark c = true) :
    readCount? digits = none := by
  have hblank : Text.isBlank c = false := by
    rcases isMark_iff.mp hmark with rfl | rfl | rfl <;> rfl
  have hdigit : Text.digitValue? c = none := by
    rcases isMark_iff.mp hmark with rfl | rfl | rfl <;> rfl
  have hstrip := mem_stripWhile hc hblank
  unfold readCount?
  dsimp only
  rw [if_neg (by simp [List.ne_nil_of_mem hstrip]), numeral?_eq_none hstrip hdigit]
  rfl

/-- Counts hold no mark. -/
theorem readCounts?_eq_none (h : ∃ c ∈ content, isMark c = true) : readCounts? content = none := by
  obtain ⟨c, hc, hmark⟩ := h
  have hcomma : (decide (c = ',')) = false := by
    simpa using ne_of_isMark (d := ',') hmark rfl
  have hspec := Text.cutAt_spec (· = ',') content
  unfold readCounts?
  split
  · rename_i exact_ heq
    rw [heq] at hspec
    rw [readCount?_eq_none (hspec ▸ hc) hmark, Option.map_none]
  · rename_i least heq
    rcases Unicode.mem_of_cutAt hc hcomma heq with hleast | hmost
    · rw [readCount?_eq_none hleast hmark, Option.map_none]
    · simp at hmost
  · rename_i least most hmost heq
    rcases Unicode.mem_of_cutAt hc hcomma heq with hc | hc
    · rw [readCount?_eq_none hc hmark]
      rfl
    · rw [readCount?_eq_none hc hmark]
      cases readCount? least <;> rfl

/-! ### Codes, properties and edges of words -/

/-- Reads a hexadecimal digit, which is not looked for behind blanks, and then `count` more. -/
def readDigitThen (flags : Flags) (count : Nat) : List Char → Option (List Char × List Char)
  | [] => none
  | c :: cs =>
    if (Text.hexValue? c).isSome then
      (readHexDigits flags count cs).map fun x => (c :: x.1, x.2)
    else none

theorem readHexDigits_succ (flags : Flags) (count : Nat) (cs : List Char) :
    readHexDigits flags (count + 1) cs = readDigitThen flags count (skip flags cs) := by
  rw [readHexDigits]
  cases skip flags cs <;> rfl

/-- Digits settle one by one: a mark is no digit. -/
theorem settles_readHexDigits (flags : Flags) (hu : Quiet u) (count : Nat) :
    Settles (readHexDigits flags count) u := by
  induction count generalizing u with
  | zero => exact Or.inr ⟨[], u, List.suffix_refl u, fun _ _ => rfl⟩
  | succ count ih =>
    have hv := hu.of_suffix (skip_suffix flags hu)
    have hread : Settles (readDigitThen flags count) (skip flags u) := by
      cases hskip : skip flags u with
      | nil =>
        refine Or.inl fun t ht => ?_
        cases t with
        | nil => rfl
        | cons c t => simp [readDigitThen, hexValue?_of_isMark ht.isMark]
      | cons c v =>
        rw [hskip] at hv
        by_cases hhex : (Text.hexValue? c).isSome = true
        · refine .of_suffix (List.suffix_cons c v) ((ih hv.tail).map (c :: ·)) fun t _ => ?_
          simp [readDigitThen, hhex]
        · exact Or.inl fun t _ => by simp [readDigitThen, hhex]
    exact (hread.skip flags hu).congr fun t _ => readHexDigits_succ flags count (u ++ t)

/-- The character whose code the digits in braces are. -/
def braceValue? (digits : List Char) : Option Char :=
  if digits.isEmpty then none else (Text.numeral? 16 Text.hexValue? digits).bind scalar?

/-- The character whose code a number of `width` digits is. -/
def digitsValue? (flags : Flags) (width : Nat) (digits : List Char) : Option Char :=
  ((Text.numeral? 16 Text.hexValue? digits).bind scalar?).filter fun c =>
    !(width = 2 && !flags.unicode && decide (0x80 ≤ c.toNat))

theorem readCode_of_brace {width : Nat} {inside : List Char} (h : skip flags cs = '\x7b' :: inside) :
    readCode flags width cs = (readBraced flags.verbose false inside).bind fun x =>
      (braceValue? x.1).map (·, x.2) := by
  unfold readCode
  rw [h]
  refine Option.bind_congr fun ⟨digits, rest⟩ _ => ?_
  dsimp only [braceValue?]
  generalize (Text.numeral? 16 Text.hexValue? digits).bind scalar? = value
  by_cases hempty : digits.isEmpty = true
  · simp [hempty]
  · simp only [hempty]
    cases value <;> rfl

theorem readCode_of_digits {width : Nat} (h : (skip flags cs).head? ≠ some '\x7b') :
    readCode flags width cs = (readHexDigits flags width (skip flags cs)).bind fun x =>
      (digitsValue? flags width x.1).map (·, x.2) := by
  unfold readCode
  split
  · rename_i inside heq
    rw [heq] at h
    exact absurd rfl h
  · refine Option.bind_congr fun ⟨digits, rest⟩ _ => ?_
    dsimp only [digitsValue?]
    generalize (Text.numeral? 16 Text.hexValue? digits).bind scalar? = value
    cases value with
    | none => rfl
    | some c =>
      rw [Option.filter_some]
      dsimp only [Option.bind_eq_bind, Option.bind_some]
      generalize (decide (width = 2) && !flags.unicode && decide (0x80 ≤ c.toNat)) = refused
      cases refused <;> rfl

/-- The code of a character settles, in braces or as a number of digits. -/
theorem settles_readCode (width : Nat) (hu : Quiet u) : Settles (readCode flags width) u := by
  have hv := hu.of_suffix (skip_suffix flags hu)
  by_cases hbrace : ∃ v, skip flags u = '\x7b' :: v
  · obtain ⟨v, heq⟩ := hbrace
    rw [heq] at hv
    have hsuffix : v <:+ u := (List.suffix_cons _ v).trans (heq ▸ skip_suffix flags hu)
    have hbraced : Settles (fun cs => (readBraced flags.verbose false cs).bind fun x =>
        (braceValue? x.1).map (·, x.2)) v := by
      refine settles_braced flags.verbose braceValue? hv.tail ?_
      rintro content ⟨c, hc, hmark⟩
      simp [braceValue?, numeral?_eq_none hc (hexValue?_of_isMark hmark)]
    refine hbraced.of_suffix hsuffix fun t ht => readCode_of_brace ?_
    rw [skip_quiet hu ht, heq]
    rfl
  · refine .of_suffix (skip_suffix flags hu)
      ((settles_readHexDigits flags hv width).check (digitsValue? flags width)) fun t ht => ?_
    rw [← skip_quiet hu ht]
    refine readCode_of_digits fun hhead => ?_
    obtain ⟨inside, heq⟩ := List.head?_eq_some_iff.mp hhead
    rw [skip_quiet hu ht] at heq
    cases hskip : skip flags u with
    | nil =>
      rw [hskip, List.nil_append] at heq
      subst heq
      exact absurd ht.isMark (by decide)
    | cons c v =>
      rw [hskip, List.cons_append, List.cons.injEq] at heq
      exact hbrace ⟨v, by rw [hskip, heq.1]⟩

theorem isForeign_of_isMark (hc : isMark c = true) : Unicode.isForeign c = true := by
  rcases isMark_iff.mp hc with rfl | rfl | rfl <;> rfl

/-- No property has a name with a mark in it. -/
theorem propertyNode?_eq_none {negated : Bool} (h : ∃ c ∈ content, isMark c = true) :
    propertyNode? flags negated content = none := by
  obtain ⟨c, hc, hmark⟩ := h
  unfold propertyNode?
  rw [Unicode.property?_eq_none hc (isForeign_of_isMark hmark), Option.map_none, ite_self]

theorem readProperty_of_brace {negated : Bool} {inside : List Char}
    (h : skip flags cs = '\x7b' :: inside) :
    readProperty flags negated cs = (readBraced flags.verbose false inside).bind fun x =>
      (propertyNode? flags negated x.1).map (·, x.2) := by
  unfold readProperty readPropertyName
  rw [h]
  rfl

/-- A property that is not named in braces is named by one character. -/
theorem readProperty_of_letter {negated : Bool} (h : skip flags cs = c :: v) (hbrace : c ≠ '\x7b')
    (hslash : c ≠ '\\') :
    readProperty flags negated cs = (propertyNode? flags negated [c]).map (·, v) := by
  have hname : readPropertyName flags cs = some ([c], v) := by
    unfold readPropertyName
    rw [h]
    split
    · simp at *
    · exact absurd (List.cons.inj ‹_›).1 hbrace
    · exact absurd (List.cons.inj ‹_›).1 hslash
    · obtain ⟨rfl, rfl⟩ := List.cons.inj ‹_›
      rfl
  unfold readProperty
  rw [hname]
  rfl

/-- A property is named by a letter or in braces; no name has a mark in it. -/
theorem settles_readProperty (negated : Bool) (hu : Quiet u) :
    Settles (readProperty flags negated) u := by
  have hv := hu.of_suffix (skip_suffix flags hu)
  cases hskip : skip flags u with
  | nil =>
    refine Or.inl fun t ht => ?_
    have hahead : skip flags (u ++ t) = t := by
      rw [skip_quiet hu ht, hskip, List.nil_append]
    cases t with
    | nil => simp [readProperty, readPropertyName, hskip]
    | cons c t =>
      by_cases hslash : c = '\\'
      · subst hslash
        simp [readProperty, readPropertyName, hahead]
      · rw [readProperty_of_letter hahead (ne_of_isMark ht.isMark rfl) hslash,
          propertyNode?_eq_none ⟨c, List.mem_singleton_self c, ht.isMark⟩, Option.map_none]
  | cons c v =>
    rw [hskip] at hv
    have hsuffix : v <:+ u := (List.suffix_cons c v).trans (hskip ▸ skip_suffix flags hu)
    have hahead : ∀ t, AtMark t → skip flags (u ++ t) = c :: (v ++ t) := by
      intro t ht
      rw [skip_quiet hu ht, hskip, List.cons_append]
    by_cases hbrace : c = '\x7b'
    · subst hbrace
      exact .of_suffix hsuffix (settles_braced flags.verbose (propertyNode? flags negated) hv.tail
        fun _ => propertyNode?_eq_none) fun t ht => readProperty_of_brace (hahead t ht)
    · have hslash : c ≠ '\\' := ne_of_isQuiet hv.head rfl
      exact .of_suffix hsuffix (settles_pure (propertyNode? flags negated [c]) v)
        fun t ht => readProperty_of_letter (hahead t ht) hbrace hslash

/-- The edge of a word that a name in braces stands for. -/
def edgeNamed? (name : List Char) : Option WordEdge :=
  match String.ofList name with
  | "start" => some .start
  | "end" => some .stop
  | "start-half" => some .startHalf
  | "end-half" => some .stopHalf
  | _ => none

/-- No edge of a word has a name with a mark in it. -/
theorem edgeNamed?_eq_none (h : ∃ c ∈ content, isMark c = true) : edgeNamed? content = none := by
  obtain ⟨c, hc, hmark⟩ := h
  have hne : ∀ name : String, name.toList.all (!isMark ·) = true → String.ofList content ≠ name := by
    rintro name hname rfl
    rw [String.toList_ofList] at hname
    have hquiet := List.all_eq_true.mp hname c hc
    rw [hmark] at hquiet
    exact absurd hquiet (by decide)
  unfold edgeNamed?
  split
  · exact absurd ‹_› (hne _ (by decide +kernel))
  · exact absurd ‹_› (hne _ (by decide +kernel))
  · exact absurd ‹_› (hne _ (by decide +kernel))
  · exact absurd ‹_› (hne _ (by decide +kernel))
  · rfl

theorem readWordEdge_of_ne (h : cs.head? ≠ some '\x7b') :
    readWordEdge flags cs = some (.boundary, cs) := by
  unfold readWordEdge
  split
  · exact absurd rfl h
  · rfl

/-- Whether braces name an edge is decided by the first character in them. -/
theorem readWordEdge_of_brace (h : skip flags cs = c :: v) :
    readWordEdge flags ('\x7b' :: cs) =
      if c.isAlpha || c = '-' then
        (readBraced flags.verbose false cs).bind fun x => (edgeNamed? x.1).map (·, x.2)
      else some (.boundary, '\x7b' :: cs) := by
  rw [readWordEdge, h]
  dsimp only
  split_ifs
  · refine Option.bind_congr fun ⟨name, rest⟩ _ => ?_
    dsimp only [edgeNamed?]
    generalize String.ofList name = word
    split <;> simp_all
  · rfl

/-- An edge of a word is named in braces, if something stands in them. -/
theorem settles_readWordEdge (hu : Quiet u)
    (h : ∀ v, u = '\x7b' :: v → skip flags v ≠ []) : Settles (readWordEdge flags) u := by
  by_cases hbrace : u.head? = some '\x7b'
  · obtain ⟨v, rfl⟩ := List.head?_eq_some_iff.mp hbrace
    obtain ⟨c, w, hskip⟩ := List.exists_cons_of_ne_nil (h v rfl)
    have hopen : ∀ t, AtMark t → readWordEdge flags ('\x7b' :: v ++ t) =
        if c.isAlpha || c = '-' then
          (readBraced flags.verbose false (v ++ t)).bind fun x => (edgeNamed? x.1).map (·, x.2)
        else some (.boundary, '\x7b' :: (v ++ t)) := by
      intro t ht
      refine readWordEdge_of_brace (v := w ++ t) (show skip flags (v ++ t) = _ from ?_)
      rw [skip_quiet hu.tail ht, hskip, List.cons_append]
    by_cases hc : (c.isAlpha || c = '-') = true
    · refine .of_suffix (List.suffix_cons _ v) (settles_braced flags.verbose edgeNamed? hu.tail
        fun _ => edgeNamed?_eq_none) fun t ht => ?_
      rw [hopen t ht, if_pos hc]
    · refine Or.inr ⟨.boundary, '\x7b' :: v, List.suffix_refl _, fun t ht => ?_⟩
      rw [hopen t ht, if_neg hc, List.cons_append]
  · refine Or.inr ⟨.boundary, u, List.suffix_refl u, fun t ht => readWordEdge_of_ne ?_⟩
    cases u with
    | nil =>
      intro hhead
      exact ne_of_isMark (ht _ hhead) rfl rfl
    | cons c u => exact hbrace

/-! ### Repetitions -/

/-- Only a question mark can make a repetition prefer less, and no mark is one. -/
theorem settles_repeatMarked (s : State) (min : Nat) (max : Option Nat) (u : List Char) :
    Settles (s.repeatMarked min max) u := by
  by_cases hlazy : u.head? = some '?'
  · obtain ⟨v, rfl⟩ := List.head?_eq_some_iff.mp hlazy
    exact .of_suffix (List.suffix_cons _ v) (settles_pure (s.repeatLast min max false) v)
      fun _ _ => rfl
  · refine (settles_pure (s.repeatLast min max true) u).congr fun t ht => ?_
    unfold State.repeatMarked
    split
    · rename_i rest heq
      cases u with
      | nil =>
        rw [List.nil_append] at heq
        subst heq
        exact absurd ht.isMark (by decide)
      | cons c u =>
        obtain ⟨rfl, -⟩ := List.cons.inj heq
        exact absurd rfl hlazy
    · rfl

end Routing.Regex.Parser
