import Mathlib.Data.List.Basic
import Mathlib.Data.List.TakeWhile
import Mathlib.Tactic.Common
import Routing.Proofs.JsonText

/-!
# Proofs: reading JSON

A text is read from its front, by the first character that is no blank. Whatever stands for a value is
read as this value, up to the end of what spells it; so no text stands for two values. The reader is told
how deep values may be nested, for which the length of the text is always enough.
-/

namespace Routing.Json

/-! ## The reader -/

/-- The text without the blanks in front. -/
def skip (text : List Char) : List Char :=
  text.dropWhile isGap

/-- Reads four hexadecimal digits. -/
def readUnit? (text : List Char) : Option (Nat × List Char) :=
  if (text.take 4).length = 4 then
    (Text.numeral? 16 Text.hexValue? (text.take 4)).map (·, text.drop 4)
  else none

/-- Reads the second of two numbers that stand for one character together. -/
def readLow? (high : Nat) : List Char → Option (Char × List Char)
  | '\\' :: 'u' :: text =>
    (readUnit? text).bind fun (low, rest) =>
      if isLow low then some (ofPair high low, rest) else none
  | _ => none

/-- Reads what stands behind a backslash. -/
def readEscape? : List Char → Option (Char × List Char)
  | [] => none
  | letter :: text =>
    if letter = 'u' then
      (readUnit? text).bind fun (n, rest) =>
        if isHigh n then readLow? n rest
        else if isLow n then none
        else some (Char.ofNat n, rest)
    else (shortEscapes.find? (·.1 = letter)).map fun escape => (escape.2, text)

/-- Reads a character inside quotes. -/
def readChar? : List Char → Option (Char × List Char)
  | [] => none
  | c :: text =>
    if c = '\\' then readEscape? text
    else if c.toNat < 0x20 then none
    else some (c, text)

/-- Reads characters up to a quote. -/
def readChars? (text : List Char) : Option (List Char × List Char) :=
  if text.head? = some '"' then some ([], text.tail)
  else match readChar? text with
    | none => none
    | some (c, rest) =>
      if rest.length < text.length then
        (readChars? rest).map fun (cs, rest) => (c :: cs, rest)
      else none
termination_by text.length

/-- Reads decimal digits. -/
def readNumeral? (text : List Char) : Option (Nat × List Char) :=
  let digits := text.takeWhile Char.isDigit
  if digits = [] ∨ digits.head? = some '0' ∧ digits ≠ ['0'] then none
  else some (Nat.ofDigitChars 10 digits 0, text.dropWhile Char.isDigit)

/-- Reads a whole number. -/
def readInt? (text : List Char) : Option (Int × List Char) :=
  if text.head? = some '-' then (readNumeral? text.tail).map fun (n, rest) => (-n, rest)
  else (readNumeral? text).map fun (n, rest) => (n, rest)

/-- Reads a word. -/
def readWord? (text : List Char) : Option (Value × List Char) :=
  words.findSome? fun (word, value) => (word.isPrefixOf? text).map (value, ·)

/-- Reads things with commas between them, up to a closing sign. -/
def readList? {α : Type} (read? : List Char → Option (α × List Char)) (close : Char)
    (text : List Char) : Option (List α × List Char) :=
  match read? text with
  | some (a, sign :: rest) =>
    if sign = close then some ([a], rest)
    else if sign = ',' ∧ rest.length < text.length then
      (readList? read? close rest).map fun (as, rest) => (a :: as, rest)
    else none
  | _ => none
termination_by text.length
decreasing_by omega

/-- Reads things with commas between them, or only blanks, up to a closing sign. -/
def readAll? {α : Type} (read? : List Char → Option (α × List Char)) (close : Char)
    (text : List Char) : Option (List α × List Char) :=
  if (skip text).head? = some close then some ([], (skip text).tail)
  else readList? read? close text

section Nested

variable (read? : List Char → Option (Value × List Char))

/-- Reads a value with the blanks around it. -/
def readItem? (text : List Char) : Option (Value × List Char) :=
  (read? (skip text)).map fun (value, rest) => (value, skip rest)

/-- Reads a key and a value with the blanks around them. -/
def readMember? (text : List Char) : Option ((String × Value) × List Char) :=
  if (skip text).head? = some '"' then
    (readChars? (skip text).tail).bind fun (key, rest) =>
      if (skip rest).head? = some ':' then
        (readItem? read? (skip rest).tail).map fun (value, rest) =>
          ((String.ofList key, value), rest)
      else none
  else none

end Nested

/-- Reads a value that is nested no deeper than the given number. -/
def readValue? : Nat → List Char → Option (Value × List Char)
  | 0, _ => none
  | _ + 1, [] => none
  | depth + 1, c :: text =>
    if c = '[' then
      (readAll? (readItem? (readValue? depth)) ']' text).map fun (items, rest) => (.arr items, rest)
    else if c = '\x7b' then
      (readAll? (readMember? (readValue? depth)) '\x7d' text).map fun (members, rest) =>
        (.object members, rest)
    else if c = '"' then
      (readChars? text).map fun (cs, rest) => (.str (String.ofList cs), rest)
    else (readWord? (c :: text)).or ((readInt? (c :: text)).map fun (n, rest) => (.int n, rest))

/-- The value for which a text stands, if it is JSON. -/
def decode? (text : String) : Option Value :=
  match readItem? (readValue? text.toList.length) text.toList with
  | some (value, []) => some value
  | _ => none

/-! ## Blanks -/

variable {text gap rest spelled : List Char} {c : Char} {value : Value}

theorem skip_append (hgap : IsGap gap) (hrest : ∀ c ∈ rest.head?, isGap c = false) :
    skip (gap ++ rest) = rest := by
  unfold skip
  rw [List.dropWhile_append_of_pos hgap]
  cases rest with
  | nil => rfl
  | cons c rest => exact List.dropWhile_cons_of_neg (by simp [hrest c rfl])

theorem isDigit_of_isGap (h : isGap c = true) : c.isDigit = false := by
  simp only [isGap, Bool.or_eq_true, decide_eq_true_eq] at h
  rcases h with ((rfl | rfl) | rfl) | rfl <;> rfl

/-! ## Quoted texts -/

/-- A code unit is read from its digits whatever follows. -/
theorem readUnit?_append {digits : List Char} {n : Nat} (h : IsUnit digits n) (rest : List Char) :
    readUnit? (digits ++ rest) = some (n, rest) := by
  unfold readUnit?
  rw [List.take_left' h.length, List.drop_left' h.length, if_pos h.length, h.value]
  rfl

/-- Every spelling of a character is read as this character. -/
theorem readChar?_append (h : SpellsChar spelled c) (rest : List Char) :
    readChar? (spelled ++ rest) = some (c, rest) := by
  cases h with
  | plain hquote hescape hcontrol =>
    rw [List.singleton_append, readChar?, if_neg hescape, if_neg (by omega)]
  | short h =>
    simp only [shortEscapes, List.mem_cons, List.not_mem_nil, or_false, Prod.mk.injEq] at h
    rcases h with ⟨rfl, rfl⟩ | ⟨rfl, rfl⟩ | ⟨rfl, rfl⟩ | ⟨rfl, rfl⟩ | ⟨rfl, rfl⟩ | ⟨rfl, rfl⟩ |
      ⟨rfl, rfl⟩ | ⟨rfl, rfl⟩ <;> rfl
  | code h hhigh hlow =>
    rw [List.cons_append, List.cons_append, readChar?, if_pos rfl, readEscape?, if_pos rfl,
      readUnit?_append h, Option.bind_some]
    simp [hhigh, hlow]
  | pair h h' hhigh hlow =>
    rw [List.cons_append, List.cons_append, List.append_assoc, List.cons_append, List.cons_append,
      readChar?, if_pos rfl, readEscape?, if_pos rfl, readUnit?_append h, Option.bind_some]
    dsimp only
    rw [if_pos hhigh, readLow?, readUnit?_append h', Option.bind_some]
    exact if_pos hlow

/-- No spelling of a character begins with a quote, so that quotes end texts. -/
theorem head?_spellsChar (h : SpellsChar spelled c) (rest : List Char) :
    (spelled ++ rest).head? ≠ some '"' := by
  cases h with
  | plain hquote => simpa using hquote
  | _ => simp

theorem length_pos_of_spellsChar (h : SpellsChar spelled c) : 0 < spelled.length := by
  cases h <;> simp

/-- Every spelling of a text is read up to its quote. -/
theorem readChars?_append {cs : List Char} (h : SpellsChars text cs) (rest : List Char) :
    readChars? (text ++ '"' :: rest) = some (cs, rest) := by
  induction h with
  | nil =>
    rw [List.nil_append, readChars?]
    rfl
  | cons h hmore ih =>
    have hlength := length_pos_of_spellsChar h
    rw [List.append_assoc, readChars?, if_neg (head?_spellsChar h _), readChar?_append h]
    dsimp only
    rw [if_pos (by simp only [List.length_append]; omega), ih]
    rfl

/-! ## Numbers and words -/

/-- A numeral is read in front of anything but a digit. -/
theorem readNumeral?_append {digits : List Char} {n : Nat} (h : IsNumeral digits n)
    (hrest : ∀ c ∈ rest.head?, c.isDigit = false) :
    readNumeral? (digits ++ rest) = some (n, rest) := by
  have htake : rest.takeWhile Char.isDigit = [] := by
    cases rest with
    | nil => rfl
    | cons c rest => exact List.takeWhile_cons_of_neg (by simp [hrest c rfl])
  have hdrop : rest.dropWhile Char.isDigit = rest := by
    cases rest with
    | nil => rfl
    | cons c rest => exact List.dropWhile_cons_of_neg (by simp [hrest c rfl])
  have hplain : ¬ (digits = [] ∨ digits.head? = some '0' ∧ digits ≠ ['0']) := by
    rintro (hnil | ⟨hhead, hne⟩)
    · exact h.ne_nil hnil
    · exact hne (h.zero hhead)
  unfold readNumeral?
  rw [List.takeWhile_append_of_pos h.isDigit, List.dropWhile_append_of_pos h.isDigit, htake, hdrop,
    List.append_nil]
  dsimp only
  rw [if_neg hplain, h.value]

/-- The text of a number begins with a digit or a minus sign. -/
theorem head_spellsInt {n : Int} (h : SpellsInt text n) :
    ∃ c more, text = c :: more ∧ (c.isDigit = true ∨ c = '-') := by
  cases h with
  | natural h =>
    cases text with
    | nil => exact absurd rfl h.ne_nil
    | cons c more => exact ⟨c, more, rfl, .inl (h.isDigit c List.mem_cons_self)⟩
  | negative h => exact ⟨_, _, rfl, .inr rfl⟩

/-- A number is read in front of anything but a digit. -/
theorem readInt?_append {n : Int} (h : SpellsInt text n)
    (hrest : ∀ c ∈ rest.head?, c.isDigit = false) :
    readInt? (text ++ rest) = some (n, rest) := by
  cases h with
  | natural h =>
    have hsign : (text ++ rest).head? ≠ some '-' := by
      cases text with
      | nil => exact absurd rfl h.ne_nil
      | cons c more =>
        intro hhead
        have hdigit := h.isDigit c List.mem_cons_self
        rw [Option.some.inj hhead] at hdigit
        exact absurd hdigit (by decide)
    rw [readInt?, if_neg hsign, readNumeral?_append h hrest]
    rfl
  | negative h =>
    rw [readInt?, List.cons_append, if_pos List.head?_cons, List.tail_cons, readNumeral?_append h hrest]
    rfl

/-- A word is not read where a number stands. -/
theorem readWord?_eq_none (hc : c.isDigit = true ∨ c = '-') (more : List Char) :
    readWord? (c :: more) = none := by
  have hne : c ≠ 'n' ∧ c ≠ 't' ∧ c ≠ 'f' := by
    rcases hc with hc | rfl
    · refine ⟨?_, ?_, ?_⟩ <;> (rintro rfl; exact absurd hc (by decide))
    · decide
  simp [readWord?, words, List.isPrefixOf?, hne.1.symm, hne.2.1.symm, hne.2.2.symm]

/-! ## Arrays and objects -/

section Lists

variable {α β : Type} {read? : List Char → Option (α × List Char)} {close : Char}
  {spelled : β → List Char} {meant : β → α} {first : β} {more : List β}

theorem listed_cons (first second : β) (more : List β) :
    listed spelled first (second :: more) = spelled first ++ ',' :: listed spelled second more := by
  simp [listed]

/-- No entry is longer than the list in which it stands. -/
theorem length_le_listed (spelled : β → List Char) {b : β} (h : b ∈ first :: more) :
    (spelled b).length ≤ (listed spelled first more).length := by
  rw [listed, List.length_append]
  rcases List.mem_cons.mp h with rfl | h
  · exact Nat.le_add_right _ _
  · have hsublist : (',' :: spelled b).Sublist (more.flatMap fun b => ',' :: spelled b) := by
      rw [List.flatMap_def]
      exact List.sublist_flatten_of_mem (List.mem_map_of_mem h)
    have hlength := hsublist.length_le
    rw [List.length_cons] at hlength
    omega

/-- What can be read in front of a comma and of the closing sign can be read in a list. -/
theorem readList?_listed (hclose : close ≠ ',')
    (hread : ∀ b ∈ first :: more, ∀ sign ∈ [',', close], ∀ rest,
      read? (spelled b ++ sign :: rest) = some (meant b, sign :: rest)) (rest : List Char) :
    readList? read? close (listed spelled first more ++ close :: rest) =
      some ((first :: more).map meant, rest) := by
  induction more generalizing first with
  | nil =>
    have hfirst := hread first List.mem_cons_self close (by simp) rest
    rw [listed, List.flatMap_nil, List.append_nil, readList?, hfirst]
    exact if_pos rfl
  | cons second more ih =>
    have hfirst := hread first List.mem_cons_self ',' (by simp)
      (listed spelled second more ++ close :: rest)
    have hmore := ih fun b hb => hread b (List.mem_cons_of_mem first hb)
    have hshorter : (listed spelled second more ++ close :: rest).length <
        (spelled first ++ ',' :: (listed spelled second more ++ close :: rest)).length := by
      simp only [List.length_append, List.length_cons]
      omega
    rw [listed_cons, List.append_assoc, List.cons_append, readList?, hfirst]
    dsimp only
    rw [if_neg hclose.symm, if_pos ⟨rfl, hshorter⟩, hmore]
    rfl

end Lists

theorem readAll?_gap {α : Type} {read? : List Char → Option (α × List Char)} {close : Char}
    (hclose : isGap close = false) (h : IsGap gap) (rest : List Char) :
    readAll? read? close (gap ++ close :: rest) = some ([], rest) := by
  have hskip : skip (gap ++ close :: rest) = close :: rest :=
    skip_append h fun c hc => by
      rw [← Option.some.inj hc]
      exact hclose
  rw [readAll?, hskip, if_pos List.head?_cons, List.tail_cons]

/-- A value is read where its text stands in front of something that does not go on with digits. -/
def Reads (read? : List Char → Option (Value × List Char)) (spelled : List Char) (value : Value) :
    Prop :=
  ∀ rest, (∀ c ∈ rest.head?, c.isDigit = false) → read? (spelled ++ rest) = some (value, rest)

/-- The text of a value begins neither with a blank nor with a closing bracket. -/
theorem head_denotes (h : Denotes text value) :
    ∃ c more, text = c :: more ∧ isGap c = false ∧ c ≠ ']' := by
  cases h with
  | word h =>
    simp only [words, List.mem_cons, List.not_mem_nil, or_false, Prod.mk.injEq] at h
    rcases h with ⟨rfl, -⟩ | ⟨rfl, -⟩ | ⟨rfl, -⟩ <;> exact ⟨_, _, rfl, rfl, by decide⟩
  | int h =>
    obtain ⟨c, more, rfl, hc⟩ := head_spellsInt h
    refine ⟨c, more, rfl, ?_⟩
    rcases hc with hc | rfl
    · refine ⟨Bool.eq_false_iff.mpr fun hgap => ?_, ?_⟩
      · rw [isDigit_of_isGap hgap] at hc
        cases hc
      · rintro rfl
        exact absurd hc (by decide)
    · exact ⟨rfl, by decide⟩
  | str h =>
    cases h
    exact ⟨_, _, rfl, rfl, by decide⟩
  | _ => exact ⟨_, _, rfl, rfl, by decide⟩

theorem Item.length_spelled_le (item : Item) : item.spelled.length ≤ item.text.length := by
  simp only [Item.text, List.length_append]
  omega

theorem Member.length_spelled_le (member : Member) :
    member.item.spelled.length ≤ member.text.length := by
  have hitem := member.item.length_spelled_le
  simp only [Member.text, List.length_append, List.length_cons]
  omega

section Nested

variable {read? : List Char → Option (Value × List Char)} {item : Item} {member : Member}

theorem skip_text_append (hgaps : item.HasGaps) (h : Denotes item.spelled item.value)
    (rest : List Char) : skip (item.text ++ rest) = item.spelled ++ (item.after ++ rest) := by
  obtain ⟨c, more, hspelled, hc, -⟩ := head_denotes h
  rw [Item.text, List.append_assoc, List.append_assoc]
  refine skip_append hgaps.before fun d hd => ?_
  rw [hspelled, List.cons_append, List.head?_cons] at hd
  rwa [← Option.some.inj hd]

/-- A value with its gaps is read if the value is read without them. -/
theorem readItem?_append (hgaps : item.HasGaps) (h : Denotes item.spelled item.value)
    (hread : Reads read? item.spelled item.value)
    (hrest : ∀ c ∈ rest.head?, isGap c = false ∧ c.isDigit = false) :
    readItem? read? (item.text ++ rest) = some (item.value, rest) := by
  have hafter : ∀ c ∈ (item.after ++ rest).head?, c.isDigit = false := by
    have hgap := hgaps.after
    cases hcases : item.after with
    | nil => exact fun c hc => (hrest c hc).2
    | cons c after =>
      intro d hd
      rw [← Option.some.inj hd]
      exact isDigit_of_isGap (hgap c (hcases ▸ List.mem_cons_self))
  rw [readItem?, skip_text_append hgaps h, hread _ hafter, Option.map_some]
  dsimp only
  rw [skip_append hgaps.after fun c hc => (hrest c hc).1]

theorem skip_member_append (hgaps : member.HasGaps) (rest : List Char) : ∃ inner,
    SpellsChars inner member.key.toList ∧ skip (member.text ++ rest) =
      '"' :: (inner ++ '"' :: (member.after ++ ':' :: (member.item.text ++ rest))) := by
  have hkey := hgaps.key
  rw [Member.text]
  generalize hspelled : member.spelled = spelled at hkey
  cases hkey with
  | quoted hinner =>
    rename_i inner
    refine ⟨inner, hinner, ?_⟩
    rw [List.append_assoc]
    refine (skip_append hgaps.before fun d hd => ?_).trans (by simp)
    rw [← Option.some.inj hd]
    rfl

/-- A member with its gaps is read if its value is read without them. -/
theorem readMember?_append (hgaps : member.HasGaps)
    (h : Denotes member.item.spelled member.item.value)
    (hread : Reads read? member.item.spelled member.item.value)
    (hrest : ∀ c ∈ rest.head?, isGap c = false ∧ c.isDigit = false) :
    readMember? read? (member.text ++ rest) = some (member.toPair, rest) := by
  obtain ⟨inner, hinner, hskip⟩ := skip_member_append hgaps rest
  have hcolon : skip (member.after ++ ':' :: (member.item.text ++ rest)) =
      ':' :: (member.item.text ++ rest) :=
    skip_append hgaps.after fun c hc => by
      rw [← Option.some.inj hc]
      rfl
  rw [readMember?, hskip, if_pos List.head?_cons, List.tail_cons, readChars?_append hinner,
    Option.bind_some]
  dsimp only
  rw [hcolon, if_pos List.head?_cons, List.tail_cons, readItem?_append hgaps.item h hread hrest,
    Option.map_some, String.ofList_toList]
  rfl

end Nested

/-- The values of an array are read if each of them is. -/
theorem readAll?_items {read? : List Char → Option (Value × List Char)} {first : Item}
    {more : List Item} (hgaps : ∀ item ∈ first :: more, item.HasGaps)
    (h : ∀ item ∈ first :: more, Denotes item.spelled item.value)
    (hread : ∀ item ∈ first :: more, Reads read? item.spelled item.value) (rest : List Char) :
    readAll? (readItem? read?) ']' (listed Item.text first more ++ ']' :: rest) =
      some ((first :: more).map (·.value), rest) := by
  have hfirst : ∀ rest, (skip (first.text ++ rest)).head? ≠ some ']' := by
    intro rest
    obtain ⟨c, inner, hspelled, -, hc⟩ := head_denotes (h first List.mem_cons_self)
    rw [skip_text_append (hgaps first List.mem_cons_self) (h first List.mem_cons_self), hspelled]
    exact fun hhead => hc (Option.some.inj hhead)
  rw [readAll?, if_neg (by rw [listed, List.append_assoc]; exact hfirst _)]
  refine readList?_listed (by decide) (fun item hitem sign hsign rest => ?_) rest
  refine readItem?_append (hgaps item hitem) (h item hitem) (hread item hitem) fun c hc => ?_
  rw [← Option.some.inj hc]
  rcases List.mem_pair.mp hsign with rfl | rfl <;> exact ⟨rfl, rfl⟩

/-- The members of an object are read if the value of each of them is. -/
theorem readAll?_members {read? : List Char → Option (Value × List Char)} {first : Member}
    {more : List Member} (hgaps : ∀ member ∈ first :: more, member.HasGaps)
    (h : ∀ member ∈ first :: more, Denotes member.item.spelled member.item.value)
    (hread : ∀ member ∈ first :: more, Reads read? member.item.spelled member.item.value)
    (rest : List Char) :
    readAll? (readMember? read?) '\x7d' (listed Member.text first more ++ '\x7d' :: rest) =
      some ((first :: more).map Member.toPair, rest) := by
  have hfirst : ∀ rest, (skip (first.text ++ rest)).head? ≠ some '\x7d' := by
    intro rest
    obtain ⟨inner, -, hskip⟩ := skip_member_append (hgaps first List.mem_cons_self) rest
    rw [hskip]
    simp
  rw [readAll?, if_neg (by rw [listed, List.append_assoc]; exact hfirst _)]
  refine readList?_listed (by decide) (fun member hmember sign hsign rest => ?_) rest
  refine readMember?_append (hgaps member hmember) (h member hmember) (hread member hmember)
    fun c hc => ?_
  rw [← Option.some.inj hc]
  rcases List.mem_pair.mp hsign with rfl | rfl <;> exact ⟨rfl, rfl⟩

/-! ## Values -/

/-- Words are read as the values they stand for. -/
theorem readValue?_word {word : List Char} (h : (word, value) ∈ words) (depth : Nat)
    (rest : List Char) : readValue? (depth + 1) (word ++ rest) = some (value, rest) := by
  simp only [words, List.mem_cons, List.not_mem_nil, or_false, Prod.mk.injEq] at h
  rcases h with ⟨rfl, rfl⟩ | ⟨rfl, rfl⟩ | ⟨rfl, rfl⟩ <;> rfl

theorem readValue?_int {n : Int} (h : SpellsInt text n) (depth : Nat)
    (hrest : ∀ c ∈ rest.head?, c.isDigit = false) :
    readValue? (depth + 1) (text ++ rest) = some (.int n, rest) := by
  have hread := readInt?_append h hrest
  obtain ⟨c, more, rfl, hc⟩ := head_spellsInt h
  have hne : c ≠ '[' ∧ c ≠ '\x7b' ∧ c ≠ '"' := by
    rcases hc with hc | rfl
    · refine ⟨?_, ?_, ?_⟩ <;> (rintro rfl; exact absurd hc (by decide))
    · decide
  rw [List.cons_append] at hread ⊢
  rw [readValue?, if_neg hne.1, if_neg hne.2.1, if_neg hne.2.2, readWord?_eq_none hc, hread]
  rfl

theorem exists_depth {depth : Nat} (h : Denotes text value) (hdepth : text.length ≤ depth) :
    ∃ n, depth = n + 1 := by
  obtain ⟨c, more, rfl, -⟩ := head_denotes h
  exact ⟨depth - 1, by rw [List.length_cons] at hdepth; omega⟩

/-- The values in a list are nested less deeply than the list. -/
theorem reads_listed {β : Type} {spelled : β → List Char} {item : β → Item} {first : β}
    {more : List β} {depth : Nat} (hlength : ∀ b, (item b).spelled.length ≤ (spelled b).length)
    (hdepth : (listed spelled first more).length ≤ depth)
    (h : ∀ b ∈ first :: more, Denotes (item b).spelled (item b).value)
    (hread : ∀ b ∈ first :: more, ∀ {n : Nat}, (item b).spelled.length ≤ n + 1 →
      Reads (readValue? (n + 1)) (item b).spelled (item b).value) :
    ∀ b ∈ first :: more, Reads (readValue? depth) (item b).spelled (item b).value := by
  intro b hb
  have hspelled : (item b).spelled.length ≤ depth :=
    (hlength b).trans ((length_le_listed spelled hb).trans hdepth)
  obtain ⟨n, rfl⟩ := exists_depth (h b hb) hspelled
  exact hread b hb hspelled

theorem reads_succ {depth : Nat} (h : Denotes text value) (hdepth : text.length ≤ depth + 1) :
    Reads (readValue? (depth + 1)) text value := by
  induction h generalizing depth with
  | word h => exact fun rest _ => readValue?_word h depth rest
  | int h => exact fun rest hrest => readValue?_int h depth hrest
  | str h =>
    intro rest _
    cases h with
    | quoted hinner =>
      rw [List.cons_append, List.append_assoc, readValue?, if_neg (by decide), if_neg (by decide),
        if_pos rfl, List.singleton_append, readChars?_append hinner, Option.map_some]
      dsimp only
      rw [String.ofList_toList]
  | empty h =>
    intro rest _
    rw [List.cons_append, List.append_assoc, readValue?, if_pos rfl, List.singleton_append,
      readAll?_gap rfl h, Option.map_some]
  | bare h =>
    intro rest _
    rw [List.cons_append, List.append_assoc, readValue?, if_neg (by decide), if_pos rfl,
      List.singleton_append, readAll?_gap rfl h, Option.map_some]
    rfl
  | items first more hgaps h ih =>
    intro rest _
    have hlength : (listed Item.text first more).length ≤ depth := by
      rw [List.length_cons, List.length_append] at hdepth
      omega
    have hread := reads_listed Item.length_spelled_le hlength h ih
    rw [List.cons_append, List.append_assoc, readValue?, if_pos rfl, List.singleton_append,
      readAll?_items hgaps h hread, Option.map_some]
  | members first more hgaps h ih =>
    intro rest _
    have hlength : (listed Member.text first more).length ≤ depth := by
      rw [List.length_cons, List.length_append] at hdepth
      omega
    have hread := reads_listed Member.length_spelled_le hlength h ih
    rw [List.cons_append, List.append_assoc, readValue?, if_neg (by decide), if_pos rfl,
      List.singleton_append, readAll?_members hgaps h hread, Option.map_some]

/-- What stands for a value is read as this value, if it may be nested as deeply as its text is long. -/
theorem reads_denotes {depth : Nat} (h : Denotes text value) (hdepth : text.length ≤ depth) :
    Reads (readValue? depth) text value := by
  obtain ⟨n, rfl⟩ := exists_depth h hdepth
  exact reads_succ h hdepth

/-- A JSON text is decoded to the value it stands for. -/
theorem decode?_eq_some {s : String} (h : IsTextOf s.toList value) : decode? s = some value := by
  obtain ⟨item, hgaps, hdenotes, htext, rfl⟩ := h
  have hlength : item.spelled.length ≤ s.toList.length := htext ▸ item.length_spelled_le
  have hread : readItem? (readValue? s.toList.length) (item.text ++ []) = some (item.value, []) :=
    readItem?_append hgaps hdenotes (reads_denotes hdenotes hlength) fun c hc => absurd hc (by simp)
  rw [List.append_nil, ← htext] at hread
  rw [decode?, hread]

/-- No text stands for two values. -/
theorem IsTextOf.unique {value' : Value} (h : IsTextOf text value) (h' : IsTextOf text value') :
    value = value' := by
  have hdecode : ∀ {value : Value}, IsTextOf text value → decode? (String.ofList text) = some value :=
    fun h => decode?_eq_some (by rwa [String.toList_ofList])
  exact Option.some.inj ((hdecode h).symm.trans (hdecode h'))

end Routing.Json
