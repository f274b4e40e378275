import Routing.Text.Ascii
import Routing.Text.Pieces

/-!
# IPv6 addresses

An address is eight pieces of up to four hexadecimal digits, separated by colons. A double colon,
which may stand once, abbreviates one or more pieces, and the last two pieces may be written as an
IPv4 address in plain decimal notation.
-/

namespace Routing.Url.Ipv6

/-- Whether a text is a piece of up to four hexadecimal digits. -/
def isPiece (piece : List Char) : Bool :=
  !piece.isEmpty && piece.length ≤ 4 && piece.all fun c => (Text.hexValue? c).isSome

/-- Whether a text is a decimal number below 256 without leading zeros. -/
def isByte (digits : List Char) : Bool :=
  match digits with
  | [] => false
  | ['0'] => true
  | '0' :: _ => false
  | digits => ((Text.numeral? 10 Text.digitValue? digits).filter (· < 256)).isSome

/-- Whether a text is an IPv4 address in plain decimal notation. -/
def isDotted (text : List Char) : Bool :=
  let bytes := Text.pieces (· = '.') text
  bytes.length = 4 && bytes.all isByte

/-- The number of pieces written in a list, of which the last may be an IPv4 address if `dotted` is
given. There is none if some piece is no piece. -/
def count? (dotted : Bool) : List (List Char) → Option Nat
  | [] => some 0
  | [last] =>
    if isPiece last then some 1 else if dotted && isDotted last then some 2 else none
  | piece :: pieces => if isPiece piece then (count? dotted pieces).map (· + 1) else none

/-- The number of pieces in a text; an empty text has none. -/
def countText? (dotted : Bool) (text : List Char) : Option Nat :=
  if text.isEmpty then some 0 else count? dotted (Text.pieces (· = ':') text)

/-- The texts before and after the first double colon. -/
def splitDouble? : List Char → Option (List Char × List Char)
  | [] => none
  | c :: cs =>
    match c, cs with
    | ':', ':' :: rest => some ([], rest)
    | _, _ => (splitDouble? cs).map fun (before, after) => (c :: before, after)

/-- Whether a text is an IPv6 address. -/
def isAddress (text : List Char) : Bool :=
  match splitDouble? text with
  | none => countText? true text = some 8
  | some (before, after) =>
    match countText? false before, countText? true after with
    | some m, some n => m + n ≤ 7
    | _, _ => false

end Routing.Url.Ipv6
