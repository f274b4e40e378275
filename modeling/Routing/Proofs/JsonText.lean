import Mathlib.Data.List.Basic
import Mathlib.Tactic.Common
import Routing.Json
import Routing.Text.Ascii

/-!
# Proofs: JSON texts

Which texts are JSON, and which values they stand for: numbers without needless zeros in front, quoted
texts in which every character stands for itself or is escaped, and arrays and objects with blanks
wherever there may be some. Numbers with a fraction or an exponent stand for no value here. The compact
text of a value is such a text for it, as long as the members of objects are in order.
-/

namespace Routing.Json

/-! ## Texts and their values -/

/-- A blank that may stand between the parts of a text. -/
def isGap (c : Char) : Bool :=
  c = ' ' || c = '\t' || c = '\n' || c = '\r'

/-- There is nothing but blanks. -/
def IsGap (text : List Char) : Prop :=
  ∀ c ∈ text, isGap c = true

/-- The short escapes: the letter behind the backslash, and the character it stands for. -/
def shortEscapes : List (Char × Char) :=
  [('"', '"'), ('\\', '\\'), ('/', '/'), ('b', '\x08'), ('f', '\x0C'), ('n', '\n'), ('r', '\r'),
    ('t', '\t')]

/-- Four hexadecimal digits, in either case, for a number. -/
structure IsUnit (digits : List Char) (n : Nat) : Prop where
  /-- There are four of them. -/
  length : digits.length = 4
  /-- They stand for the number. -/
  value : Text.numeral? 16 Text.hexValue? digits = some n

/-- The first of two numbers that stand for one character together. -/
def isHigh (n : Nat) : Bool :=
  0xD800 ≤ n && n < 0xDC00

/-- The second of two numbers that stand for one character together. -/
def isLow (n : Nat) : Bool :=
  0xDC00 ≤ n && n < 0xE000

/-- The character for which two numbers stand together. -/
def ofPair (high low : Nat) : Char :=
  Char.ofNat (0x10000 + (high - 0xD800) * 0x400 + (low - 0xDC00))

/-- How a character may be written inside quotes. -/
inductive SpellsChar : List Char → Char → Prop where
  /-- As it is; quotes, backslashes and control characters may not. -/
  | plain {c : Char} (hquote : c ≠ '"') (hescape : c ≠ '\\') (hcontrol : 0x20 ≤ c.toNat) :
      SpellsChar [c] c
  /-- By a short escape. -/
  | short {letter c : Char} (h : (letter, c) ∈ shortEscapes) : SpellsChar ['\\', letter] c
  /-- By its number. -/
  | code {digits : List Char} {n : Nat} (h : IsUnit digits n) (hhigh : isHigh n = false)
      (hlow : isLow n = false) : SpellsChar ('\\' :: 'u' :: digits) (Char.ofNat n)
  /-- By two numbers. -/
  | pair {digits digits' : List Char} {high low : Nat} (h : IsUnit digits high)
      (h' : IsUnit digits' low) (hhigh : isHigh high = true) (hlow : isLow low = true) :
      SpellsChar ('\\' :: 'u' :: (digits ++ '\\' :: 'u' :: digits')) (ofPair high low)

/-- How the characters of a text may be written inside quotes. -/
inductive SpellsChars : List Char → List Char → Prop where
  /-- No character. -/
  | nil : SpellsChars [] []
  /-- A character in front of others. -/
  | cons {spelled more : List Char} {c : Char} {cs : List Char} (h : SpellsChar spelled c)
      (hmore : SpellsChars more cs) : SpellsChars (spelled ++ more) (c :: cs)

/-- How a text may be written in quotes. -/
inductive SpellsText : List Char → String → Prop where
  /-- Its characters between two quotes. -/
  | quoted {inner : List Char} {s : String} (h : SpellsChars inner s.toList) :
      SpellsText ('"' :: (inner ++ ['"'])) s

/-- Decimal digits for a number, with no needless zero in front. -/
structure IsNumeral (digits : List Char) (n : Nat) : Prop where
  /-- There is a digit. -/
  ne_nil : digits ≠ []
  /-- There are only digits. -/
  isDigit : ∀ c ∈ digits, c.isDigit = true
  /-- A zero in front stands alone. -/
  zero : digits.head? = some '0' → digits = ['0']
  /-- They stand for the number. -/
  value : Nat.ofDigitChars 10 digits 0 = n

/-- How a whole number may be written. -/
inductive SpellsInt : List Char → Int → Prop where
  /-- Without a sign. -/
  | natural {digits : List Char} {n : Nat} (h : IsNumeral digits n) : SpellsInt digits n
  /-- Behind a minus sign. -/
  | negative {digits : List Char} {n : Nat} (h : IsNumeral digits n) :
      SpellsInt ('-' :: digits) (-n)

/-- The words that stand for values. -/
def words : List (List Char × Value) :=
  [(['n', 'u', 'l', 'l'], .null), (['t', 'r', 'u', 'e'], .bool true),
    (['f', 'a', 'l', 's', 'e'], .bool false)]

/-- A value with its text and the blanks around it. -/
structure Item where
  /-- The blanks in front. -/
  before : List Char
  /-- The text of the value. -/
  spelled : List Char
  /-- The blanks behind. -/
  after : List Char
  /-- The value. -/
  value : Value

namespace Item

/-- The whole text of the item. -/
def text (item : Item) : List Char :=
  item.before ++ (item.spelled ++ item.after)

/-- There is nothing but blanks around the value. -/
structure HasGaps (item : Item) : Prop where
  /-- In front of it. -/
  before : IsGap item.before
  /-- Behind it. -/
  after : IsGap item.after

end Item

/-- A key and a value with their texts and the blanks around them. -/
structure Member where
  /-- The blanks in front of the key. -/
  before : List Char
  /-- The text of the key. -/
  spelled : List Char
  /-- The blanks behind the key. -/
  after : List Char
  /-- The key. -/
  key : String
  /-- What stands behind the colon. -/
  item : Item

namespace Member

/-- The whole text of the member. -/
def text (member : Member) : List Char :=
  member.before ++ (member.spelled ++ (member.after ++ ':' :: member.item.text))

/-- The member without its text. -/
def toPair (member : Member) : String × Value :=
  (member.key, member.item.value)

/-- There is nothing but blanks around the key and the value, and the key is written as it should be. -/
structure HasGaps (member : Member) : Prop where
  /-- In front of the key. -/
  before : IsGap member.before
  /-- Behind the key. -/
  after : IsGap member.after
  /-- The key itself. -/
  key : SpellsText member.spelled member.key
  /-- Around the value. -/
  item : member.item.HasGaps

end Member

/-- The texts of several things with commas between them. -/
def listed {α : Type} (text : α → List Char) (first : α) (more : List α) : List Char :=
  text first ++ more.flatMap fun a => ',' :: text a

/-- The text stands for the value. Of several members of an object with the same key the last counts. -/
inductive Denotes : List Char → Value → Prop where
  /-- A word. -/
  | word {word : List Char} {value : Value} (h : (word, value) ∈ words) : Denotes word value
  /-- A whole number. -/
  | int {text : List Char} {n : Int} (h : SpellsInt text n) : Denotes text (.int n)
  /-- A text in quotes. -/
  | str {text : List Char} {s : String} (h : SpellsText text s) : Denotes text (.str s)
  /-- An array without items. -/
  | empty {gap : List Char} (h : IsGap gap) : Denotes ('[' :: (gap ++ [']'])) (.arr [])
  /-- An array with items. -/
  | items (first : Item) (more : List Item) (hgaps : ∀ item ∈ first :: more, item.HasGaps)
      (h : ∀ item ∈ first :: more, Denotes item.spelled item.value) :
      Denotes ('[' :: (listed Item.text first more ++ [']'])) (.arr ((first :: more).map (·.value)))
  /-- An object without members. -/
  | bare {gap : List Char} (h : IsGap gap) : Denotes ('\x7b' :: (gap ++ ['\x7d'])) (.obj [])
  /-- An object with members. -/
  | members (first : Member) (more : List Member) (hgaps : ∀ member ∈ first :: more, member.HasGaps)
      (h : ∀ member ∈ first :: more, Denotes member.item.spelled member.item.value) :
      Denotes ('\x7b' :: (listed Member.text first more ++ ['\x7d']))
        (.object ((first :: more).map Member.toPair))

/-- The text is JSON and stands for the value: there may be blanks around it, and nothing else. -/
def IsTextOf (text : List Char) (value : Value) : Prop :=
  ∃ item : Item, item.HasGaps ∧ Denotes item.spelled item.value ∧ text = item.text ∧
    value = item.value

/-! ## Values whose members are in order -/

/-- The members of all objects in the value are in ascending order of their keys. -/
inductive Value.IsOrdered : Value → Prop where
  /-- Nothing. -/
  | null : IsOrdered .null
  /-- Yes or no. -/
  | bool (b : Bool) : IsOrdered (.bool b)
  /-- A whole number. -/
  | int (n : Int) : IsOrdered (.int n)
  /-- A text. -/
  | str (s : String) : IsOrdered (.str s)
  /-- An array. -/
  | arr {items : List Value} (h : ∀ item ∈ items, IsOrdered item) : IsOrdered (.arr items)
  /-- An object. -/
  | obj {members : List (String × Value)} (hkeys : members.Pairwise fun m m' => m.1 < m'.1)
      (h : ∀ member ∈ members, IsOrdered member.2) : IsOrdered (.obj members)

namespace Value

variable {members sorted : List (String × Value)} {key : String} {value : Value}

theorem insertMember_of_forall_lt (h : ∀ member ∈ sorted, member.1 < key) :
    insertMember key value sorted = sorted ++ [(key, value)] := by
  induction sorted with
  | nil => rfl
  | cons member sorted ih =>
    have hlt : member.1 < key := h member List.mem_cons_self
    have hne : key ≠ member.1 := fun heq => String.lt_irrefl key (heq ▸ hlt)
    have hnot : ¬ key < member.1 := fun hgt => String.lt_irrefl key (String.lt_trans hgt hlt)
    rw [insertMember, if_neg hne, if_neg hnot, ih fun m hm => h m (List.mem_cons_of_mem member hm)]
    rfl

/-- Members that are sorted are put behind each other. -/
theorem foldl_insertMember_of_pairwise
    (h : (sorted ++ members).Pairwise fun m m' => m.1 < m'.1) :
    members.foldl (fun sorted member => insertMember member.1 member.2 sorted) sorted =
      sorted ++ members := by
  induction members generalizing sorted with
  | nil => exact (List.append_nil sorted).symm
  | cons member members ih =>
    have hlast : ∀ m ∈ sorted, m.1 < member.1 := fun m hm =>
      (List.pairwise_append.mp h).2.2 m hm member List.mem_cons_self
    rw [List.append_cons] at h
    rw [List.foldl_cons, insertMember_of_forall_lt hlast, ih h, ← List.append_cons]

/-- Members that are in order already stay as they are. -/
theorem object_eq_obj (h : members.Pairwise fun m m' => m.1 < m'.1) : object members = .obj members :=
  congrArg obj (foldl_insertMember_of_pairwise h)

theorem mem_insertMember {member : String × Value} (h : member ∈ insertMember key value sorted) :
    member = (key, value) ∨ member ∈ sorted := by
  induction sorted with
  | nil => simpa [insertMember] using h
  | cons first sorted ih =>
    obtain ⟨k, v⟩ := first
    rw [insertMember] at h
    split_ifs at h
    · exact (List.mem_cons.mp h).imp_right (List.mem_cons_of_mem _)
    · exact List.mem_cons.mp h
    · rcases List.mem_cons.mp h with rfl | h
      · exact Or.inr List.mem_cons_self
      · exact (ih h).imp_right (List.mem_cons_of_mem _)

/-- Inserting keeps the keys in order. -/
theorem pairwise_insertMember (h : sorted.Pairwise fun m m' => m.1 < m'.1) :
    (insertMember key value sorted).Pairwise fun m m' => m.1 < m'.1 := by
  induction sorted with
  | nil => exact List.pairwise_singleton _ _
  | cons first sorted ih =>
    obtain ⟨k, v⟩ := first
    obtain ⟨hfirst, hsorted⟩ := List.pairwise_cons.mp h
    rw [insertMember]
    split_ifs with heq hlt
    · exact List.pairwise_cons.mpr ⟨fun m hm => heq ▸ hfirst m hm, hsorted⟩
    · refine List.pairwise_cons.mpr ⟨fun m hm => ?_, h⟩
      rcases List.mem_cons.mp hm with rfl | hm
      · exact hlt
      · exact String.lt_trans hlt (hfirst m hm)
    · have hgt : k < key := by
        rcases Std.lt_trichotomy key k with h | h | h
        · exact absurd h hlt
        · exact absurd h heq
        · exact h
      refine List.pairwise_cons.mpr ⟨fun m hm => ?_, ih hsorted⟩
      rcases mem_insertMember hm with rfl | hm
      · exact hgt
      · exact hfirst m hm

/-- An object that is made from its members is in order. -/
theorem isOrdered_object (h : ∀ member ∈ members, member.2.IsOrdered) :
    (object members).IsOrdered := by
  have hfold : ∀ sorted : List (String × Value), IsOrdered (.obj sorted) →
      IsOrdered (.obj (members.foldl
        (fun sorted member => insertMember member.1 member.2 sorted) sorted)) := by
    induction members with
    | nil => exact fun _ hsorted => hsorted
    | cons member members ih =>
      intro sorted hsorted
      cases hsorted with
      | obj hkeys hvalues =>
        refine ih (fun m hm => h m (List.mem_cons_of_mem member hm)) _
          (.obj (pairwise_insertMember hkeys) fun m hm => ?_)
        rcases mem_insertMember hm with rfl | hm
        · exact h member List.mem_cons_self
        · exact hvalues m hm
  exact hfold [] (.obj List.Pairwise.nil fun _ hm => absurd hm List.not_mem_nil)

end Value

/-! ## Written texts -/

variable {items : List Value} {members : List (String × Value)} {value : Value}

theorem isUnit_control {n : Nat} (h : n < 0x20) :
    IsUnit ['0', '0', hexDigit (n / 16), hexDigit (n % 16)] n := by
  have hvalue : ∀ n < 0x20, Text.numeral? 16 Text.hexValue?
      ['0', '0', hexDigit (n / 16), hexDigit (n % 16)] = some n := by decide
  exact ⟨rfl, hvalue n h⟩

/-- What is written for a character spells it. -/
theorem spellsChar_quoteChar (c : Char) : SpellsChar (quoteChar c) c := by
  unfold quoteChar
  split_ifs with hquote hescape hb ht hn hf hr hcontrol
  · subst hquote
    exact .short (by decide)
  · subst hescape
    exact .short (by decide)
  · subst hb
    exact .short (by decide)
  · subst ht
    exact .short (by decide)
  · subst hn
    exact .short (by decide)
  · subst hf
    exact .short (by decide)
  · subst hr
    exact .short (by decide)
  · have hchar : Char.ofNat c.toNat = c := Char.ofNat_toNat c
    have hspells : SpellsChar _ (Char.ofNat c.toNat) :=
      .code (isUnit_control hcontrol) (by simp [isHigh]; omega) (by simp [isLow]; omega)
    rwa [hchar] at hspells
  · exact .plain hquote hescape (by omega)

theorem spellsText_quote (s : String) : SpellsText (quote s) s := by
  have hchars : ∀ cs : List Char, SpellsChars (cs.flatMap quoteChar) cs := by
    intro cs
    induction cs with
    | nil => exact .nil
    | cons c cs ih => exact .cons (spellsChar_quoteChar c) ih
  exact .quoted (hchars s.toList)

/-- The first of the digits of a number is a zero only if the number is one. -/
theorem head?_toDigits {n : Nat} (h : (Nat.toDigits 10 n).head? = some '0') : n = 0 := by
  induction n using Nat.strongRecOn with
  | _ n ih =>
    rcases Nat.lt_or_ge n 10 with hlt | hge
    · have hdigit : ∀ n < 10, (Nat.toDigits 10 n).head? = some '0' → n = 0 := by decide
      exact hdigit n hlt h
    · rw [Nat.toDigits_of_base_le (by decide) hge,
        List.head?_append_of_ne_nil _ Nat.toDigits_ne_nil] at h
      have hzero := ih (n / 10) (by omega) h
      omega

theorem isNumeral_toDigits (n : Nat) : IsNumeral (Nat.toDigits 10 n) n where
  ne_nil := Nat.toDigits_ne_nil
  isDigit := fun _ hc => Nat.isDigit_of_mem_toDigits (by decide) (by decide) hc
  zero := fun h => by rw [head?_toDigits h]; rfl
  value := Nat.ofDigitChars_toDigits (by decide) (by decide)

theorem spellsInt_decimal (n : Int) : SpellsInt (decimal n) n := by
  cases n with
  | ofNat n => exact .natural (isNumeral_toDigits n)
  | negSucc n => exact .negative (isNumeral_toDigits (n + 1))

/-- Behind the first value, each value has a comma in front. -/
theorem writeItems_eq (items : List Value) :
    writeItems items = items.flatMap (fun item => ',' :: write item) ++ [']'] := by
  induction items with
  | nil => rfl
  | cons item items ih => simp [writeItems, ih]

theorem writeMembers_eq (members : List (String × Value)) : writeMembers members =
    members.flatMap (fun member => ',' :: (quote member.1 ++ ':' :: write member.2)) ++ ['\x7d'] := by
  induction members with
  | nil => rfl
  | cons member members ih => simp [writeMembers, ih]

theorem isGap_nil : IsGap [] :=
  fun _ hc => absurd hc List.not_mem_nil

/-- An array is written as it may be if its items are. -/
theorem denotes_write_arr (h : ∀ item ∈ items, Denotes (write item) item) :
    Denotes (write (.arr items)) (.arr items) := by
  cases items with
  | nil => exact .empty isGap_nil
  | cons first more =>
    let toItem (value : Value) : Item := ⟨[], write value, [], value⟩
    have hgaps : ∀ item ∈ toItem first :: more.map toItem, item.HasGaps := by
      rw [← List.map_cons]
      intro item hitem
      obtain ⟨value, -, rfl⟩ := List.mem_map.mp hitem
      exact ⟨isGap_nil, isGap_nil⟩
    have hitems : ∀ item ∈ toItem first :: more.map toItem, Denotes item.spelled item.value := by
      rw [← List.map_cons]
      intro item hitem
      obtain ⟨value, hvalue, rfl⟩ := List.mem_map.mp hitem
      exact h value hvalue
    have hdenotes := Denotes.items (toItem first) (more.map toItem) hgaps hitems
    rw [← List.map_cons, List.map_map] at hdenotes
    rw [write, writeItems_eq]
    simpa [listed, Item.text, toItem, Function.comp_def, List.flatMap_map] using hdenotes

/-- An object is written as it may be if its values are; it stands for its members in order. -/
theorem denotes_write_obj (h : ∀ member ∈ members, Denotes (write member.2) member.2) :
    Denotes (write (.obj members)) (.object members) := by
  cases members with
  | nil => exact .bare isGap_nil
  | cons first more =>
    let toMember (member : String × Value) : Member :=
      ⟨[], quote member.1, [], member.1, ⟨[], write member.2, [], member.2⟩⟩
    have hgaps : ∀ member ∈ toMember first :: more.map toMember, member.HasGaps := by
      rw [← List.map_cons]
      intro member hmember
      obtain ⟨pair, -, rfl⟩ := List.mem_map.mp hmember
      exact ⟨isGap_nil, isGap_nil, spellsText_quote pair.1, isGap_nil, isGap_nil⟩
    have hvalues : ∀ member ∈ toMember first :: more.map toMember,
        Denotes member.item.spelled member.item.value := by
      rw [← List.map_cons]
      intro member hmember
      obtain ⟨pair, hpair, rfl⟩ := List.mem_map.mp hmember
      exact h pair hpair
    have hdenotes := Denotes.members (toMember first) (more.map toMember) hgaps hvalues
    rw [← List.map_cons, List.map_map] at hdenotes
    rw [write, writeMembers_eq]
    simpa [listed, Member.text, Member.toPair, Item.text, toMember, Function.comp_def,
      List.flatMap_map] using hdenotes

/-- The compact text of a value whose members are in order is JSON and stands for it. -/
theorem denotes_write (h : value.IsOrdered) : Denotes (write value) value := by
  induction h with
  | null => exact .word (by simp [words, write])
  | bool b => cases b <;> exact .word (by simp [words, write])
  | int n =>
    rw [write]
    exact .int (spellsInt_decimal n)
  | str s =>
    rw [write]
    exact .str (spellsText_quote s)
  | arr _ ih => exact denotes_write_arr ih
  | obj hkeys _ ih =>
    have hdenotes := denotes_write_obj ih
    rwa [Value.object_eq_obj hkeys] at hdenotes

end Routing.Json
