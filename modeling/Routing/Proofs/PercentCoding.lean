import Mathlib.Data.List.Basic
import Mathlib.Tactic.Common
import Routing.Text.Percent

/-!
# Proofs: percent encoding

What percent encoding does to a text: every character that is written out is one that is kept, a
percent sign or a hexadecimal digit, so no separator comes into the text by it. A byte that has been
written as a triple is read again, and all other bytes stay as they are.
-/

namespace Routing.Text

/-! ## Bytes of characters -/

variable {c : Char}

/-- What holds of the first 128 code points holds of every character of ASCII. -/
theorem forall_ascii {P : Char → Prop} (h : ∀ n : Fin 128, P (Char.ofNat n))
    (hc : c.toNat < 128) : P c := by
  have hn := h ⟨c.toNat, hc⟩
  rwa [Char.ofNat_toNat] at hn

namespace Utf8

theorem utf8EncodeChar_of_ascii (hc : c.toNat < 128) :
    String.utf8EncodeChar c = [UInt8.ofNat c.toNat] :=
  if_pos (Nat.le_of_lt_succ hc)

/-- Outside ASCII no byte of a character is one of ASCII. -/
theorem le_of_mem_utf8EncodeChar (hc : 128 ≤ c.toNat) {b : UInt8}
    (hb : b ∈ String.utf8EncodeChar c) : 128 ≤ b.toNat := by
  change 128 ≤ c.val.toNat at hc
  unfold String.utf8EncodeChar at hb
  generalize c.val.toNat = v at hb hc
  dsimp only at hb
  rw [if_neg (by omega)] at hb
  split_ifs at hb <;> simp only [List.mem_cons, List.not_mem_nil, or_false] at hb
  · rcases hb with rfl | rfl <;> rw [UInt8.toNat_ofNat'] <;> omega
  · rcases hb with rfl | rfl | rfl <;> rw [UInt8.toNat_ofNat'] <;> omega
  · rcases hb with rfl | rfl | rfl | rfl <;> rw [UInt8.toNat_ofNat'] <;> omega

/-- The byte of the percent sign belongs to no other character. -/
theorem percent_not_mem_utf8EncodeChar (hc : c ≠ '%') : 0x25 ∉ String.utf8EncodeChar c := by
  intro hb
  by_cases hascii : c.toNat < 128
  · rw [utf8EncodeChar_of_ascii hascii, List.mem_singleton] at hb
    have hbyte : ∀ n : Fin 128, 0x25 = UInt8.ofNat (Char.ofNat n).toNat → Char.ofNat n = '%' := by
      decide
    exact hc (forall_ascii (P := fun c => 0x25 = UInt8.ofNat c.toNat → c = '%') hbyte hascii hb)
  · have hle := le_of_mem_utf8EncodeChar (Nat.le_of_not_lt hascii) hb
    exact absurd hle (by decide)

theorem percent_not_mem_encode {cs : List Char} (h : '%' ∉ cs) : 0x25 ∉ encode cs := by
  intro hb
  obtain ⟨c, hc, hb⟩ := List.mem_flatMap.mp hb
  refine percent_not_mem_utf8EncodeChar ?_ hb
  rintro rfl
  exact h hc

/-- The bytes of ASCII text are read back as the text. -/
theorem decode_encode_of_ascii {cs : List Char} (h : ∀ c ∈ cs, c.toNat < 128) :
    decode (encode cs) = cs := by
  induction cs with
  | nil => rfl
  | cons c cs ih =>
    have hc : c.toNat < 128 := h c (by simp)
    have hlead : Lead.ofByte (UInt8.ofNat c.toNat) = .whole c :=
      forall_ascii (P := fun c => Lead.ofByte (UInt8.ofNat c.toNat) = .whole c) (by decide) hc
    have hcs := ih fun d hd => h d (by simp [hd])
    rw [encode_cons, utf8EncodeChar_of_ascii hc, List.singleton_append]
    unfold decode at hcs ⊢
    simp only [decodeFrom, hlead, hcs]

end Utf8

namespace Percent

open Utf8

/-! ## What is written -/

/-- Whether a character is a hexadecimal digit. -/
def isHexDigit (c : Char) : Bool :=
  (hexValue? c).isSome

theorem isHexDigit_eq_false_iff : isHexDigit c = false ↔ hexValue? c = none := by
  simp [isHexDigit]

theorem hexValue?_hexDigit {n : Nat} (hn : n < 16) : hexValue? (hexDigit n) = some n := by
  have hdigits : ∀ n : Fin 16, hexValue? (hexDigit n) = some (n : Nat) := by decide
  exact hdigits ⟨n, hn⟩

theorem isHexDigit_hexDigit {n : Nat} (hn : n < 16) : isHexDigit (hexDigit n) = true := by
  rw [isHexDigit, hexValue?_hexDigit hn]
  rfl

theorem mem_encodeByte {b : UInt8} (h : c ∈ encodeByte b) : c = '%' ∨ isHexDigit c = true := by
  have hb : b.toNat < 256 := UInt8.toNat_lt b
  rw [encodeByte, List.mem_cons, List.mem_cons, List.mem_singleton] at h
  rcases h with rfl | rfl | rfl
  · exact .inl rfl
  · exact .inr (isHexDigit_hexDigit (by omega))
  · exact .inr (isHexDigit_hexDigit (by omega))

variable {keep : Char → Bool} {cs : List Char}

/-- A character that is written is kept, or it is the sign or a digit of a triple. -/
theorem mem_encodeChar {d : Char} (h : d ∈ encodeChar keep c) :
    d = c ∧ keep c = true ∨ d = '%' ∨ isHexDigit d = true := by
  unfold encodeChar at h
  split at h
  · rename_i hkeep
    exact .inl ⟨List.mem_singleton.mp h, hkeep⟩
  · obtain ⟨b, -, hb⟩ := List.mem_flatMap.mp h
    exact .inr (mem_encodeByte hb)

/-- An encoded text holds characters that are kept, percent signs and hexadecimal digits. -/
theorem mem_encode (h : c ∈ encode keep cs) :
    c ∈ cs ∧ keep c = true ∨ c = '%' ∨ isHexDigit c = true := by
  obtain ⟨d, hd, hc⟩ := List.mem_flatMap.mp h
  rcases mem_encodeChar hc with ⟨rfl, hkeep⟩ | hc
  · exact .inl ⟨hd, hkeep⟩
  · exact .inr hc

/-- What is written consists of characters that are kept, if the sign and the digits are. -/
theorem keep_of_mem_encode (hsign : keep '%' = true)
    (hdigit : ∀ c, isHexDigit c = true → keep c = true) (h : c ∈ encode keep cs) :
    keep c = true := by
  rcases mem_encode h with ⟨-, hkeep⟩ | rfl | hc
  · exact hkeep
  · exact hsign
  · exact hdigit c hc

/-! ## What is read again -/

theorem hexByte?_byte (hc : c.toNat < 128) : hexByte? (UInt8.ofNat c.toNat) = hexValue? c := by
  have hbyte : (UInt8.ofNat c.toNat).toNat = c.toNat := by
    rw [UInt8.toNat_ofNat']
    omega
  rw [hexByte?, hbyte, Char.ofNat_toNat]

theorem lt_of_isHexDigit (h : isHexDigit c = true) : c.toNat < 128 := by
  unfold isHexDigit hexValue? at h
  have hle : ∀ d : Char, c ≤ d → c.toNat ≤ d.toNat := fun d hd => hd
  split_ifs at h with h1 h2 h3
  · have : c.toNat ≤ 57 := hle _ h1.2
    omega
  · have : c.toNat ≤ 102 := hle _ h2.2
    omega
  · have : c.toNat ≤ 70 := hle _ h3.2
    omega
  · cases h

/-- A byte that has been written as a triple is read again. -/
theorem decode_encodeByte (b : UInt8) (bs : List UInt8) :
    decode (Utf8.encode (encodeByte b) ++ bs) = b :: decode bs := by
  have hb : b.toNat < 256 := UInt8.toNat_lt b
  have hdigit : ∀ n < 16, (hexDigit n).toNat < 128 ∧
      hexByte? (UInt8.ofNat (hexDigit n).toNat) = some n := fun n hn => by
    have hlt := lt_of_isHexDigit (isHexDigit_hexDigit hn)
    exact ⟨hlt, by rw [hexByte?_byte hlt, hexValue?_hexDigit hn]⟩
  obtain ⟨hhigh, hhighValue⟩ := hdigit (b.toNat / 16) (by omega)
  obtain ⟨hlow, hlowValue⟩ := hdigit (b.toNat % 16) (by omega)
  have hbytes : Utf8.encode (encodeByte b) = [0x25, UInt8.ofNat (hexDigit (b.toNat / 16)).toNat,
      UInt8.ofNat (hexDigit (b.toNat % 16)).toNat] := by
    simp only [encodeByte, Utf8.encode_cons, Utf8.encode_nil, utf8EncodeChar_of_ascii hhigh,
      utf8EncodeChar_of_ascii hlow]
    rfl
  have hvalue : UInt8.ofNat (16 * (b.toNat / 16) + b.toNat % 16) = b := by
    rw [Nat.div_add_mod, UInt8.ofNat_toNat]
  rw [hbytes]
  exact (decode_triple _ _ bs _ _ hhighValue hlowValue).trans (by rw [hvalue])

/-- Triples are decoded to their bytes. -/
theorem decode_flatMap_encodeByte (bytes bs : List UInt8) :
    decode (Utf8.encode (bytes.flatMap encodeByte) ++ bs) = bytes ++ decode bs := by
  induction bytes with
  | nil => rfl
  | cons b bytes ih =>
    rw [List.flatMap_cons, Utf8.encode_append, List.append_assoc, decode_encodeByte, ih,
      List.cons_append]

theorem decode_append_of_not_mem {bytes : List UInt8} (h : 0x25 ∉ bytes) (bs : List UInt8) :
    decode (bytes ++ bs) = bytes ++ decode bs := by
  induction bytes with
  | nil => rfl
  | cons b bytes ih =>
    rw [List.mem_cons, not_or] at h
    rw [List.cons_append, decode_cons_of_ne b _ (Ne.symm h.1), ih h.2, List.cons_append]

/-- The value of the first byte, if it is a digit. -/
def firstDigit? (bs : List UInt8) : Option Nat :=
  bs.head?.bind hexByte?

theorem triple?_eq (bs : List UInt8) :
    triple? bs = do return UInt8.ofNat (16 * (← firstDigit? bs) + (← firstDigit? bs.tail)) := by
  rcases bs with _ | ⟨h, _ | ⟨l, bs⟩⟩
  · rfl
  · cases hh : hexByte? h <;> simp [triple?, firstDigit?, hh]
  · rfl

theorem hexByte?_eq_none {b : UInt8} (hb : 128 ≤ b.toNat) : hexByte? b = none := by
  have hbytes : ∀ n : Fin 256, 128 ≤ (n : Nat) → hexValue? (Char.ofNat n) = none := by
    decide +kernel
  exact hbytes ⟨b.toNat, UInt8.toNat_lt b⟩ hb

/-- The first byte of a character is a digit exactly if the character is. -/
theorem firstDigit?_utf8EncodeChar (c : Char) (bs : List UInt8) :
    firstDigit? (String.utf8EncodeChar c ++ bs) = hexValue? c := by
  by_cases hc : c.toNat < 128
  · rw [utf8EncodeChar_of_ascii hc]
    exact hexByte?_byte hc
  · have hvalue : hexValue? c = none := by
      rw [← isHexDigit_eq_false_iff, ← Bool.not_eq_true]
      exact mt lt_of_isHexDigit hc
    rw [hvalue]
    cases hbytes : String.utf8EncodeChar c with
    | nil => exact absurd hbytes String.utf8EncodeChar_ne_nil
    | cons b bytes =>
      refine hexByte?_eq_none (le_of_mem_utf8EncodeChar (c := c) (Nat.le_of_not_lt hc) ?_)
      rw [hbytes]
      exact List.mem_cons_self

end Percent

end Routing.Text
