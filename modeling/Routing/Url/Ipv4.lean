import Routing.Text.Ascii
import Routing.Text.Pieces

/-!
# IPv4 addresses

A host whose last part is a number has to be an IPv4 address: one to four numbers, decimal, octal
with a leading zero or hexadecimal with a leading `0x`. The last number fills the bytes that the
others leave.
-/

namespace Routing.Url.Ipv4

/-- What a part of a host is as a number. -/
inductive Number where
  /-- It is no number. -/
  | notNumber
  /-- It is a number of 2^32 or more. -/
  | tooLarge
  /-- It is a number below 2^32. -/
  | value (n : Nat)
  deriving Repr, DecidableEq

/-- The number that digits in a base write; no digits are zero. -/
def Number.ofDigits (base : Nat) (digits : List Char) : Number :=
  let digit? (c : Char) := (Text.hexValue? c).filter (· < base)
  match Text.numeral? base digit? digits with
  | none => .notNumber
  | some n => if n < UInt32.size then .value n else .tooLarge

/-- Reads a part of a host as a number. -/
def Number.ofPart (part : List Char) : Number :=
  match part with
  | [] => .notNumber
  | '0' :: 'x' :: digits => ofDigits 16 digits
  | '0' :: 'X' :: digits => ofDigits 16 digits
  | '0' :: c :: digits => ofDigits 8 (c :: digits)
  | digits => ofDigits 10 digits

/-- The parts of a host between its dots; an empty part at the end does not count. -/
def parts (host : List Char) : List (List Char) :=
  let all := Text.pieces (· = '.') host
  if all.getLast? = some [] then all.dropLast else all

/-- Whether the last part of a host is a number or at least all digits. -/
def endsInNumber (host : List Char) : Bool :=
  match (parts host).getLast? with
  | none => false
  | some last =>
    (!last.isEmpty && last.all Char.isDigit) || Number.ofPart last ≠ .notNumber

/-- Whether the numbers fit into four bytes. -/
def fits : (room : Nat) → List Nat → Bool
  | _, [] => false
  | room, [n] => 0 < room && n < 256 ^ room
  | 0, _ => false
  | room + 1, n :: ns => n < 256 && fits room ns

/-- Whether a host is an IPv4 address. -/
def isAddress (host : List Char) : Bool :=
  let numbers := (parts host).map Number.ofPart
  let values := numbers.filterMap fun
    | .value n => some n
    | _ => none
  values.length = numbers.length && fits 4 values

end Routing.Url.Ipv4
