/-!
# UTF-8

Encoding of characters, and decoding that never fails: every maximal run of bytes that begins a
character without completing it, and every byte that begins none, becomes a replacement character.
-/

namespace Routing.Text.Utf8

/-- The bytes of a text. -/
def encode (cs : List Char) : List UInt8 :=
  cs.flatMap String.utf8EncodeChar

@[simp] theorem encode_nil : encode [] = [] := rfl

@[simp] theorem encode_cons (c : Char) (cs : List Char) :
    encode (c :: cs) = String.utf8EncodeChar c ++ encode cs := rfl

@[simp] theorem encode_append (s t : List Char) : encode (s ++ t) = encode s ++ encode t := by
  simp [encode]

/-- A character of which some bytes have been read. -/
structure Pending where
  /-- The number of bytes still to come. -/
  missing : Nat
  /-- The bits read so far. -/
  code : Nat
  /-- The least value of the next byte. -/
  least : UInt8
  /-- The greatest value of the next byte. -/
  greatest : UInt8
  deriving Repr, DecidableEq

/-- What the first byte of a character tells. -/
inductive Lead where
  /-- It is a whole character. -/
  | whole (c : Char)
  /-- More bytes have to follow. -/
  | open (pending : Pending)
  /-- It begins no character. -/
  | stray
  deriving Repr, DecidableEq

/-- Reads the first byte of a character. The second byte is restricted where the encoding would be
too long, a surrogate or beyond the last code point. -/
def Lead.ofByte (b : UInt8) : Lead :=
  let n := b.toNat
  if n < 0x80 then whole (Char.ofNat n)
  else if n < 0xC2 then stray
  else if n < 0xE0 then .open ⟨1, n - 0xC0, 0x80, 0xBF⟩
  else if n < 0xF0 then
    .open ⟨2, n - 0xE0, if n = 0xE0 then 0xA0 else 0x80, if n = 0xED then 0x9F else 0xBF⟩
  else if n < 0xF5 then
    .open ⟨3, n - 0xF0, if n = 0xF0 then 0x90 else 0x80, if n = 0xF4 then 0x8F else 0xBF⟩
  else stray

/-- The replacement character. -/
def replacement : Char := '\uFFFD'

/-- Decodes bytes, some of a character having been read already. -/
def decodeFrom : Option Pending → List UInt8 → List Char
  | none, [] => []
  | some _, [] => [replacement]
  | none, b :: bs =>
    match Lead.ofByte b with
    | .whole c => c :: decodeFrom none bs
    | .open pending => decodeFrom (some pending) bs
    | .stray => replacement :: decodeFrom none bs
  | some p, b :: bs =>
    if p.least ≤ b ∧ b ≤ p.greatest then
      let code := p.code * 64 + (b.toNat - 0x80)
      if p.missing = 1 then Char.ofNat code :: decodeFrom none bs
      else decodeFrom (some ⟨p.missing - 1, code, 0x80, 0xBF⟩) bs
    else
      replacement :: match Lead.ofByte b with
        | .whole c => c :: decodeFrom none bs
        | .open pending => decodeFrom (some pending) bs
        | .stray => replacement :: decodeFrom none bs

/-- Decodes bytes to a text. -/
def decode (bytes : List UInt8) : List Char :=
  decodeFrom none bytes

end Routing.Text.Utf8
