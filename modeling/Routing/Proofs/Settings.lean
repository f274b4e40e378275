import Mathlib.Logic.Function.Basic
import Routing.Config
import Routing.Proofs.NormalForm

/-!
# Proofs: settings

Each setting is read from a variable of its own, and whatever cannot be read counts as absent. A number
can be read if it is written in decimal digits and fits into a word of 64 bits: to accumulate it in such
a word, and to give up as soon as a product or a sum does not fit, comes to the same as to compute it
and to look at the result. What is written in the form in which it is read is read back.
-/

namespace Routing

/-! ## Numbers in decimal digits -/

namespace Text

variable {digits : List Char} {start n : Nat}

/-- The number with one more digit behind it. -/
def nextNumber? (n : Nat) (c : Char) : Option Nat :=
  (digitValue? c).map (10 * n + ·)

/-- The number in a word with one more digit behind it, unless the product or the sum does not fit. -/
def nextWord? (word : UInt64) (c : Char) : Option UInt64 :=
  (digitValue? c).bind fun digit =>
    if 10 * word.toNat < UInt64.size then
      if (10 * word).toNat + digit < UInt64.size then some (10 * word + .ofNat digit) else none
    else none

/-- A digit is written behind the number; nothing else is. -/
theorem nextNumber?_eq (n : Nat) (c : Char) :
    nextNumber? n c = if c.isDigit then some (10 * n + (c.toNat - '0'.toNat)) else none := by
  have hdigit : ('0' ≤ c ∧ c ≤ '9') ↔ c.isDigit = true := Char.isDigit_iff_toNat.symm
  unfold nextNumber? digitValue?
  by_cases hc : c.isDigit = true
  · rw [if_pos (hdigit.mpr hc), if_pos hc]
    rfl
  · rw [if_neg (mt hdigit.mp hc), if_neg hc]
    rfl

/-- From any start, digits and nothing but digits give the number that they write behind the start. -/
theorem foldlM_nextNumber?_eq_some_iff : digits.foldlM nextNumber? start = some n ↔
    (∀ c ∈ digits, c.isDigit = true) ∧ Nat.ofDigitChars 10 digits start = n := by
  induction digits generalizing start with
  | nil => simp [Nat.ofDigitChars]
  | cons c digits ih =>
    rw [List.foldlM_cons, nextNumber?_eq, Nat.ofDigitChars_cons, List.forall_mem_cons]
    cases hc : c.isDigit with
    | false => simp
    | true =>
      rw [if_pos rfl]
      exact ih.trans (by simp)

/-- A number is read from digits only, as what they stand for. -/
theorem numeral?_eq_some_iff : numeral? 10 digitValue? digits = some n ↔
    (∀ c ∈ digits, c.isDigit = true) ∧ Nat.ofDigitChars 10 digits 0 = n :=
  foldlM_nextNumber?_eq_some_iff

theorem le_ofDigitChars (digits : List Char) (start : Nat) :
    start ≤ Nat.ofDigitChars 10 digits start := by
  induction digits generalizing start with
  | nil => exact Nat.le_refl start
  | cons c digits ih =>
    rw [Nat.ofDigitChars_cons]
    have hstep := ih (10 * start + (c.toNat - '0'.toNat))
    omega

/-- Adding a digit to a word is adding it to the number, and fails if the result does not fit into a
word. -/
theorem toNat_nextWord? (word : UInt64) (c : Char) : (nextWord? word c).map UInt64.toNat =
    (nextNumber? word.toNat c).filter (· < UInt64.size) := by
  unfold nextWord? nextNumber?
  cases digitValue? c with
  | none => rfl
  | some digit =>
    rw [Option.bind_some, Option.map_some, Option.filter_some]
    by_cases hproduct : 10 * word.toNat < UInt64.size
    · have hten : (10 * word).toNat = 10 * word.toNat := by
        rw [UInt64.toNat_mul]
        exact Nat.mod_eq_of_lt hproduct
      rw [if_pos hproduct, hten]
      by_cases hsum : 10 * word.toNat + digit < UInt64.size
      · have hdigit : (UInt64.ofNat digit).toNat = digit :=
          UInt64.toNat_ofNat_of_lt (by omega)
        rw [if_pos hsum, if_pos (by simpa using hsum), Option.map_some, UInt64.toNat_add, hten,
          hdigit]
        exact congrArg some (Nat.mod_eq_of_lt hsum)
      · rw [if_neg hsum, if_neg (by simpa using hsum)]
        rfl
    · -- a product that does not fit does not fit with something added either
      have hsum : ¬ 10 * word.toNat + digit < UInt64.size := by omega
      rw [if_neg hproduct, if_neg (by simpa using hsum)]
      rfl

/-- It is the same to give up at the first digit with which the number does not fit and to look at the
number in the end. -/
theorem toNat_foldlM_nextWord? (digits : List Char) (word : UInt64) :
    (digits.foldlM nextWord? word).map UInt64.toNat =
      (digits.foldlM nextNumber? word.toNat).filter (· < UInt64.size) := by
  induction digits generalizing word with
  | nil =>
    have hword : word.toNat < UInt64.size := word.toNat_lt
    change some word.toNat = (some word.toNat).filter (· < UInt64.size)
    rw [Option.filter_some, if_pos (by simpa using hword)]
  | cons c digits ih =>
    rw [List.foldlM_cons, List.foldlM_cons]
    have hstep := toNat_nextWord? word c
    cases hnumber : nextNumber? word.toNat c with
    | none =>
      rw [hnumber] at hstep
      rw [Option.map_eq_none_iff.mp hstep]
      rfl
    | some number =>
      rw [hnumber, Option.filter_some] at hstep
      by_cases hfits : number < UInt64.size
      · rw [if_pos (by simpa using hfits)] at hstep
        obtain ⟨next, hnext, rfl⟩ := Option.map_eq_some_iff.mp hstep
        rw [hnext]
        exact ih next
      · rw [if_neg (by simpa using hfits)] at hstep
        rw [Option.map_eq_none_iff.mp hstep]
        -- further digits only make the number larger
        refine (Option.filter_eq_none_iff.mpr fun n hn => ?_).symm
        obtain ⟨-, rfl⟩ := foldlM_nextNumber?_eq_some_iff.mp hn
        have hle := le_ofDigitChars digits number
        simpa using (Nat.not_lt.mp hfits).trans hle

theorem isBlank_of_isDigit {c : Char} (h : c.isDigit = true) : isBlank c = false := by
  have hrange := Char.isDigit_iff_toNat.mp h
  have hzero : '0'.toNat = 48 := rfl
  have hnine : '9'.toNat = 57 := rfl
  rw [hzero, hnine] at hrange
  rw [← Bool.not_eq_true, isBlank]
  simp only [Bool.or_eq_true, Bool.and_eq_true, decide_eq_true_eq]
  omega

end Text

namespace Config

/-- The text is a numeral for the number: decimal digits, at least one, with or without a plus sign in
front. -/
def IsNumeral (text : List Char) (n : Nat) : Prop :=
  ∃ digits, (text = digits ∨ text = '+' :: digits) ∧ digits ≠ [] ∧
    (∀ c ∈ digits, c.isDigit = true) ∧ Nat.ofDigitChars 10 digits 0 = n

/-- Reads a number like `readUnsigned?`, in a word of 64 bits. -/
def readWord? (text : List Char) : Option UInt64 :=
  let digits := match text with
    | '+' :: digits => digits
    | digits => digits
  if digits.isEmpty then none else digits.foldlM Text.nextWord? 0

/-- The words for yes and for no. -/
def switchWords : Bool → List String
  | true => ["1", "true", "yes", "on"]
  | false => ["0", "false", "no", "off"]

variable {text : List Char} {n : Nat} {raw : String} {b : Bool}

/-- A number is read from its numerals and from nothing else, if it fits into a word. -/
theorem readUnsigned?_eq_some_iff :
    readUnsigned? text = some n ↔ IsNumeral text n ∧ n < UInt64.size := by
  have hread : ∀ digits : List Char,
      (if digits.isEmpty then none
        else (Text.numeral? 10 Text.digitValue? digits).filter (· < UInt64.size)) = some n ↔
      (digits ≠ [] ∧ (∀ c ∈ digits, c.isDigit = true) ∧ Nat.ofDigitChars 10 digits 0 = n) ∧
        n < UInt64.size := by
    intro digits
    cases digits with
    | nil => simp
    | cons c digits =>
      rw [if_neg (by simp), Option.filter_eq_some_iff, Text.numeral?_eq_some_iff]
      simp [UInt64.size]
  unfold readUnsigned? IsNumeral
  split
  · rename_i digits
    refine (hread digits).trans (and_congr_left' ⟨fun h => ⟨digits, .inr rfl, h⟩, ?_⟩)
    rintro ⟨others, hothers | hothers, h⟩
    · -- a plus sign is no digit
      have hplus := h.2.1 '+' (hothers ▸ List.mem_cons_self)
      exact absurd hplus (by decide)
    · rwa [(List.cons.inj hothers).2]
  · rename_i hsign
    refine (hread text).trans (and_congr_left' ⟨fun h => ⟨text, .inl rfl, h⟩, ?_⟩)
    rintro ⟨others, rfl | hothers, h⟩
    · exact h
    · exact absurd hothers (hsign others)

/-- The last number of 64 bits is read, and the next one is not, however many zeros stand in front. -/
example : readUnsigned? "+0018446744073709551615".toList = some 18446744073709551615 ∧
    readUnsigned? "0018446744073709551616".toList = none := by
  decide +kernel

/-- It makes no difference whether a word is tested at every digit or the number at the end. -/
theorem readUnsigned?_eq_map_readWord? (text : List Char) :
    readUnsigned? text = (readWord? text).map UInt64.toNat := by
  have hword : ∀ digits : List Char,
      (if digits.isEmpty then none
        else (Text.numeral? 10 Text.digitValue? digits).filter (· < UInt64.size)) =
      (if digits.isEmpty then none else digits.foldlM Text.nextWord? 0).map UInt64.toNat := by
    intro digits
    cases digits with
    | nil => rfl
    | cons c digits => exact (Text.toNat_foldlM_nextWord? (c :: digits) 0).symm
  unfold readUnsigned? readWord?
  exact hword _

/-- A switch is read from its words in any case, with blanks around them. -/
theorem readSwitch?_eq_some_iff :
    readSwitch? raw = some b ↔ Text.asciiLower (Text.trim raw) ∈ switchWords b := by
  have hdisjoint : ∀ word ∈ switchWords true, word ∉ switchWords false := by decide
  have htrue : switchWords true = ["1", "true", "yes", "on"] := rfl
  have hfalse : switchWords false = ["0", "false", "no", "off"] := rfl
  unfold readSwitch?
  rw [← htrue, ← hfalse]
  dsimp only
  split_ifs with hyes hno
  · cases b with
    | true => exact iff_of_true rfl hyes
    | false => exact iff_of_false (by simp) (hdisjoint _ hyes)
  · cases b with
    | true => exact iff_of_false (by simp) hyes
    | false => exact iff_of_true rfl hno
  · cases b with
    | true => exact iff_of_false (by simp) hyes
    | false => exact iff_of_false (by simp) hno

/-! ## What is written -/

/-- There is nothing to trim from digits. -/
theorem trim_digits (n : Nat) :
    (Text.trim (String.ofList (Nat.toDigits 10 n))).toList = Nat.toDigits 10 n := by
  have hblank : ∀ c ∈ Nat.toDigits 10 n, Text.isBlank c = false := fun c hc =>
    Text.isBlank_of_isDigit (Nat.isDigit_of_mem_toDigits (by decide) (by decide) hc)
  rw [Text.toList_trim, String.toList_ofList]
  exact Text.stripWhile_eq_self (fun c hc => hblank c (List.mem_of_mem_head? hc))
    fun c hc => hblank c (List.mem_of_getLast? hc)

theorem readUnsigned?_digits (micros : UInt64) :
    readUnsigned? (Text.trim (String.ofList (Nat.toDigits 10 micros.toNat))).toList =
      some micros.toNat := by
  rw [trim_digits, readUnsigned?_eq_some_iff]
  refine ⟨⟨_, .inl rfl, Nat.toDigits_ne_nil, fun c hc => ?_, ?_⟩, micros.toNat_lt⟩
  · exact Nat.isDigit_of_mem_toDigits (by decide) (by decide) hc
  · exact Nat.ofDigitChars_toDigits (by decide) (by decide)

theorem readSwitch?_word (b : Bool) : ∀ word ∈ switchWords b, readSwitch? word = some b := by
  cases b <;> decide

/-! ## The settings of an environment -/

/-- The environment gives a number of microseconds: its variable, without blanks around it, is a numeral
for a number that fits. -/
def GivesMicros (environment : Environment) (n : Nat) : Prop :=
  ∃ raw, environment "SROUTER_SLOW_MATCH_US" = some raw ∧
    IsNumeral (Text.trim raw).toList n ∧ n < UInt64.size

/-- The environment says whether methods are enforced: its variable, without blanks around it and in
lower case, is a word for it. -/
def GivesSwitch (environment : Environment) (b : Bool) : Prop :=
  ∃ raw, environment "SROUTER_ENFORCE_METHOD" = some raw ∧
    Text.asciiLower (Text.trim raw) ∈ switchWords b

/-- The environment with both settings written into it. -/
def written (environment : Environment) (word : String) (micros : UInt64) : Environment :=
  Function.update (Function.update environment "SROUTER_ENFORCE_METHOD" (some word))
    "SROUTER_SLOW_MATCH_US" (some (String.ofList (Nat.toDigits 10 micros.toNat)))

/-- A setting has the value that is read from its variable or, if none can be read, the default. -/
theorem getD_bind_eq_iff {α : Type} {raw? : Option String} {read? : String → Option α}
    {fallback value : α} :
    (raw?.bind read?).getD fallback = value ↔
      (∃ raw, raw? = some raw ∧ read? raw = some value) ∨
        value = fallback ∧ ∀ other, ¬ ∃ raw, raw? = some raw ∧ read? raw = some other := by
  simp only [← Option.bind_eq_some_iff]
  cases raw?.bind read? with
  | none => simp [eq_comm]
  | some found => simp

variable {environment : Environment}

/-- The time is the one that the environment gives, and 1000 if it gives none. -/
theorem slowMatchMicros_eq_iff : (ofEnvironment environment).slowMatchMicros = n ↔
    GivesMicros environment n ∨ n = 1000 ∧ ∀ m, ¬ GivesMicros environment m := by
  have hgives : ∀ m, GivesMicros environment m ↔
      ∃ raw, environment "SROUTER_SLOW_MATCH_US" = some raw ∧
        readUnsigned? (Text.trim raw).toList = some m := by
    intro m
    simp only [GivesMicros, readUnsigned?_eq_some_iff]
  simp only [hgives]
  exact getD_bind_eq_iff

theorem enforceMethod_eq_iff : (ofEnvironment environment).enforceMethod = b ↔
    GivesSwitch environment b ∨ b = false ∧ ∀ other, ¬ GivesSwitch environment other := by
  have hgives : ∀ b, GivesSwitch environment b ↔
      ∃ raw, environment "SROUTER_ENFORCE_METHOD" = some raw ∧ readSwitch? raw = some b := by
    intro b
    simp only [GivesSwitch, readSwitch?_eq_some_iff]
  simp only [hgives]
  exact getD_bind_eq_iff

/-- The threshold is the number that its variable gives, and a thousand microseconds if it gives none;
methods are enforced if their variable says so, and are not if it says nothing. Neither variable has a
part in the other setting, whether or not it can be read. A number is read as it would be if its digits
were accumulated in a word of 64 bits. Settings that are written with any word for whether methods are
enforced and in decimal digits are read back, for every number of microseconds that such a word holds. -/
theorem ofEnvironment_reads (environment : Environment) :
    let config := ofEnvironment environment
    (∀ n, config.slowMatchMicros = n ↔
      GivesMicros environment n ∨ n = 1000 ∧ ∀ m, ¬ GivesMicros environment m) ∧
    (∀ b, config.enforceMethod = b ↔
      GivesSwitch environment b ∨ b = false ∧ ∀ other, ¬ GivesSwitch environment other) ∧
    (∀ value : Option String,
      (ofEnvironment (Function.update environment "SROUTER_ENFORCE_METHOD" value)).slowMatchMicros =
          config.slowMatchMicros ∧
        (ofEnvironment (Function.update environment "SROUTER_SLOW_MATCH_US" value)).enforceMethod =
          config.enforceMethod) ∧
    (∀ text, readUnsigned? text = (readWord? text).map UInt64.toNat) ∧
    ∀ (enforceMethod : Bool) (micros : UInt64), ∀ word ∈ switchWords enforceMethod,
      ofEnvironment (written environment word micros) =
        { enforceMethod, slowMatchMicros := micros.toNat } := by
  have hne : "SROUTER_SLOW_MATCH_US" ≠ "SROUTER_ENFORCE_METHOD" := by decide
  refine ⟨fun n => slowMatchMicros_eq_iff, fun b => enforceMethod_eq_iff, fun value => ⟨?_, ?_⟩,
    readUnsigned?_eq_map_readWord?, fun enforceMethod micros word hword => ?_⟩
  · simp only [ofEnvironment, Function.update_of_ne hne]
  · simp only [ofEnvironment, Function.update_of_ne hne.symm]
  · have hswitch : written environment word micros "SROUTER_ENFORCE_METHOD" = some word := by
      rw [written, Function.update_of_ne hne.symm, Function.update_self]
    have hmicros : written environment word micros "SROUTER_SLOW_MATCH_US" =
        some (String.ofList (Nat.toDigits 10 micros.toNat)) :=
      Function.update_self ..
    simp only [ofEnvironment, hswitch, hmicros, Option.bind_some, readUnsigned?_digits,
      readSwitch?_word enforceMethod word hword, Option.getD_some]

end Config

end Routing
