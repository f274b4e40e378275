/-!
# ASCII letter case

Method names, scheme names, header names and configuration words are compared after mapping the 26
letters of ASCII to one case; every other character stays as it is.
-/

namespace Routing.Text

/-- The text with the ASCII letters in upper case. -/
def asciiUpper (s : String) : String :=
  String.ofList (s.toList.map Char.toUpper)

/-- The text with the ASCII letters in lower case. -/
def asciiLower (s : String) : String :=
  String.ofList (s.toList.map Char.toLower)

/-- Whether two texts are equal up to the case of ASCII letters. -/
def sameIgnoringCase (s t : String) : Bool :=
  s.toList.map Char.toLower = t.toList.map Char.toLower

theorem isLower_iff (c : Char) : c.isLower = true ↔ 97 ≤ c.toNat ∧ c.toNat ≤ 122 := by
  have hlower : c.isLower = (decide (97 ≤ c.val) && decide (c.val ≤ 122)) := rfl
  rw [hlower, Bool.and_eq_true, decide_eq_true_eq, decide_eq_true_eq, UInt32.le_iff_toNat_le,
    UInt32.le_iff_toNat_le]
  exact Iff.rfl

theorem isAlphanum_iff (c : Char) : c.isAlphanum = true ↔
    c.isUpper = true ∨ c.isLower = true ∨ c.isDigit = true := by
  have halphanum : c.isAlphanum = (c.isUpper || c.isLower || c.isDigit) := rfl
  rw [halphanum, Bool.or_eq_true, Bool.or_eq_true, or_assoc]

@[simp] theorem toList_asciiUpper (s : String) :
    (asciiUpper s).toList = s.toList.map Char.toUpper := by
  simp [asciiUpper]

@[simp] theorem toList_asciiLower (s : String) :
    (asciiLower s).toList = s.toList.map Char.toLower := by
  simp [asciiLower]

theorem sameIgnoringCase_symm {s t : String} (h : sameIgnoringCase s t = true) :
    sameIgnoringCase t s = true := by
  simp only [sameIgnoringCase, decide_eq_true_eq] at h ⊢
  exact h.symm

theorem sameIgnoringCase_trans {s t u : String} (h : sameIgnoringCase s t = true)
    (hu : sameIgnoringCase t u = true) : sameIgnoringCase s u = true := by
  simp only [sameIgnoringCase, decide_eq_true_eq] at h hu ⊢
  exact h.trans hu

/-- The value of an ASCII digit. -/
def digitValue? (c : Char) : Option Nat :=
  if '0' ≤ c ∧ c ≤ '9' then some (c.toNat - 48) else none

/-- The value of an ASCII hexadecimal digit in either case. -/
def hexValue? (c : Char) : Option Nat :=
  if '0' ≤ c ∧ c ≤ '9' then some (c.toNat - 48)
  else if 'a' ≤ c ∧ c ≤ 'f' then some (c.toNat - 87)
  else if 'A' ≤ c ∧ c ≤ 'F' then some (c.toNat - 55)
  else none

/-- The number written by digits in the given base, the most significant first; `value?` reads one
digit. There is none when a character is no digit; no digits at all give zero. -/
def numeral? (base : Nat) (value? : Char → Option Nat) (digits : List Char) : Option Nat :=
  digits.foldlM (fun n c => (value? c).map (base * n + ·)) 0

end Routing.Text
