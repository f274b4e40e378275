import Mathlib.Data.List.Basic
import Mathlib.Tactic.Common
import Routing.Text.Utf8

/-!
# Proofs: the order of bytes

Texts that are sorted by code points are sorted by the bytes that encode them, too. What makes this
true is that the bytes of the lesser of two characters come first whatever stands behind either, so
the first character in which two texts differ decides.
-/

namespace Routing.Text.Utf8

/-- The bytes `s` come before the bytes `t`, whatever follows either. -/
def Precedes (s t : List UInt8) : Prop :=
  ∀ more more' : List UInt8, s ++ more < t ++ more'

theorem precedes_cons {a b : Nat} (h : a < b) (hb : b < 256) (s t : List UInt8) :
    Precedes (UInt8.ofNat a :: s) (UInt8.ofNat b :: t) := by
  intro more more'
  refine List.Lex.rel ?_
  rw [UInt8.lt_iff_toNat_lt, UInt8.toNat_ofNat', UInt8.toNat_ofNat']
  omega

/-- Where the bytes for the higher bits do not decide, the byte for the last six bits does. -/
theorem precedes_append_digit {m n : Nat} (h : m < n) {s t : List UInt8}
    (heq : m / 64 = n / 64 → s = t) (hlt : m / 64 < n / 64 → Precedes s t) :
    Precedes (s ++ [UInt8.ofNat (m % 64 + 128)]) (t ++ [UInt8.ofNat (n % 64 + 128)]) := by
  intro more more'
  rw [List.append_assoc, List.append_assoc]
  rcases Nat.lt_or_ge (m / 64) (n / 64) with hdigits | hdigits
  · exact hlt hdigits _ _
  · rw [heq (by omega)]
    exact List.append_left_lt (precedes_cons (by omega) (by omega) [] [] more more')

/-- Of two characters the one with the lesser code point has the lesser bytes. -/
theorem precedes_utf8EncodeChar {c d : Char} (h : c < d) :
    Precedes (String.utf8EncodeChar c) (String.utf8EncodeChar d) := by
  have hval : c.val.toNat < d.val.toNat := h
  have hd : d.val.toNat < 0x110000 := by
    have hvalid := d.valid
    simp only [UInt32.isValidChar, Nat.isValidChar] at hvalid
    omega
  unfold String.utf8EncodeChar
  generalize c.val.toNat = m at hval
  generalize d.val.toNat = n at hval hd
  dsimp only
  have hdiv : ∀ k, k / 4096 = k / 64 / 64 := by omega
  have hdiv' : ∀ k, k / 262144 = k / 64 / 64 / 64 := by omega
  -- the first bytes decide unless both characters take the same number of bytes, and more than one
  split_ifs
  all_goals first | exact precedes_cons (by omega) (by omega) _ _ | skip
  · exact precedes_append_digit hval (s := [_]) (t := [_]) (fun heq => by rw [heq])
      fun hlt => precedes_cons (by omega) (by omega) [] []
  · rw [hdiv m, hdiv n]
    exact precedes_append_digit hval (s := [_, _]) (t := [_, _]) (fun heq => by rw [heq])
      fun hlt => precedes_append_digit hlt (s := [_]) (t := [_]) (fun heq => by rw [heq])
        fun hlt' => precedes_cons (by omega) (by omega) [] []
  · rw [hdiv m, hdiv n, hdiv' m, hdiv' n]
    exact precedes_append_digit hval (s := [_, _, _]) (t := [_, _, _]) (fun heq => by rw [heq])
      fun hlt => precedes_append_digit hlt (s := [_, _]) (t := [_, _]) (fun heq => by rw [heq])
        fun hlt' => precedes_append_digit hlt' (s := [_]) (t := [_]) (fun heq => by rw [heq])
          fun hlt'' => precedes_cons (by omega) (by omega) [] []

/-- The lesser of two texts has the lesser bytes. -/
theorem encode_lt {s t : List Char} (h : s < t) : encode s < encode t := by
  induction h with
  | @nil c cs =>
    rw [encode_nil, encode_cons]
    cases hc : String.utf8EncodeChar c with
    | nil => exact absurd hc String.utf8EncodeChar_ne_nil
    | cons b bs => exact List.nil_lt_cons b _
  | rel h =>
    rw [encode_cons, encode_cons]
    exact precedes_utf8EncodeChar h _ _
  | cons _ ih =>
    rw [encode_cons, encode_cons]
    exact List.append_left_lt ih

end Routing.Text.Utf8
