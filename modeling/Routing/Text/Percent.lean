import Routing.Text.Ascii
import Routing.Text.Utf8

/-!
# Percent encoding

A byte may be written as a percent sign and two hexadecimal digits. Decoding takes every such triple
and leaves all else; encoding writes triples for the characters outside a given set, byte by byte.
-/

namespace Routing.Text.Percent

/-- The value of a byte that is a hexadecimal digit. -/
def hexByte? (b : UInt8) : Option Nat :=
  hexValue? (Char.ofNat b.toNat)

/-- The byte that a percent sign stands for, given what follows it. -/
def triple? (bs : List UInt8) : Option UInt8 :=
  match bs with
  | h :: l :: _ => do
    let high ← hexByte? h
    let low ← hexByte? l
    return UInt8.ofNat (16 * high + low)
  | _ => none

/-- Decodes bytes of which the first `taken` belong to a triple already decoded. -/
def decodeFrom : (taken : Nat) → List UInt8 → List UInt8
  | _, [] => []
  | taken + 1, _ :: bs => decodeFrom taken bs
  | 0, b :: bs =>
    if b = 0x25 then
      match triple? bs with
      | some value => value :: decodeFrom 2 bs
      | none => b :: decodeFrom 0 bs
    else b :: decodeFrom 0 bs

/-- Replaces every percent sign with two hexadecimal digits behind it by the byte it stands for. -/
def decode (bytes : List UInt8) : List UInt8 :=
  decodeFrom 0 bytes

@[simp] theorem decode_nil : decode [] = [] := rfl

/-- A triple is decoded to its byte. -/
theorem decode_triple (h l : UInt8) (bs : List UInt8) (high low : Nat)
    (hh : hexByte? h = some high) (hl : hexByte? l = some low) :
    decode (0x25 :: h :: l :: bs) = UInt8.ofNat (16 * high + low) :: decode bs := by
  simp [decode, decodeFrom, triple?, hh, hl]

/-- A byte that is no percent sign stays as it is. -/
theorem decode_cons_of_ne (b : UInt8) (bs : List UInt8) (hb : b ≠ 0x25) :
    decode (b :: bs) = b :: decode bs := by
  simp [decode, decodeFrom, hb]

/-- The hexadecimal digit for a number below 16, in upper case. -/
def hexDigit (n : Nat) : Char :=
  if n < 10 then Char.ofNat (48 + n) else Char.ofNat (55 + n)

/-- A byte as a percent sign and two digits. -/
def encodeByte (b : UInt8) : List Char :=
  ['%', hexDigit (b.toNat / 16), hexDigit (b.toNat % 16)]

/-- A character as it stands if it is kept, and otherwise byte by byte. -/
def encodeChar (keep : Char → Bool) (c : Char) : List Char :=
  if keep c then [c] else (String.utf8EncodeChar c).flatMap encodeByte

/-- The text with all characters encoded that are not kept. -/
def encode (keep : Char → Bool) (cs : List Char) : List Char :=
  cs.flatMap (encodeChar keep)

/-- A text of which every character is kept stays as it is. -/
theorem encode_of_forall (keep : Char → Bool) (cs : List Char) (h : ∀ c ∈ cs, keep c = true) :
    encode keep cs = cs := by
  induction cs with
  | nil => rfl
  | cons c cs ih =>
    have hc : keep c = true := h c (by simp)
    have := ih fun d hd => h d (by simp [hd])
    simpa [encode, encodeChar, hc] using this

end Routing.Text.Percent
