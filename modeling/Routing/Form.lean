import Routing.Text.Percent
import Routing.Text.Pieces

/-!
# Form data

Pairs of names and values as a query or a form body holds them: pairs are separated by `&`, a name
from its value by the first `=`; a plus sign stands for a blank, and the rest is percent-encoded
UTF-8.
-/

namespace Routing.Form

/-- Decodes a name or a value. -/
def decodeComponent (cs : List Char) : String :=
  let spaced := cs.map fun c => if c = '+' then ' ' else c
  String.ofList (Text.Utf8.decode (Text.Percent.decode (Text.Utf8.encode spaced)))

/-- Decodes a pair; without `=` the value is empty. -/
def decodePair (piece : List Char) : String × String :=
  let (name, value) := Text.cutAt (· = '=') piece
  (decodeComponent name, decodeComponent (value.getD []))

/-- The pairs of a form in order; empty pieces are no pairs. -/
def pairs (encoded : String) : List (String × String) :=
  ((Text.pieces (· = '&') encoded.toList).filter (!·.isEmpty)).map decodePair

end Routing.Form
