import Routing.Text.Pieces
import Routing.Unicode.Category
import Routing.Unicode.Normal
import Routing.Url.Domain.Direction
import Routing.Url.Domain.Joiner
import Routing.Url.Domain.Mapping
import Routing.Url.Domain.Punycode

/-!
# Domain names

The normal form of an international domain name: characters are mapped and composed, labels in
Punycode are decoded, and every label is checked. Names without characters outside ASCII only have
their capital letters replaced.
-/

namespace Routing.Url.Domain

open Routing.Unicode

/-- Whether a character may not stand in the name of a host. -/
def isForbidden (c : Char) : Bool :=
  c.toNat ≤ 0x20 || c.toNat = 0x7F ||
    c ∈ ['%', '#', '/', ':', '<', '>', '?', '@', '[', '\\', ']', '^', '|']

/-- The characters that take the place of a text, unless some of it is refused. -/
def mapped? (text : List Char) : Option (List Char) :=
  (text.mapM fun c =>
    match fate c with
    | .keep => some [c]
    | .drop => some []
    | .replace cs => some cs
    | .refuse => none).map List.flatten

/-- The beginning of a label in Punycode. -/
def punycodeMark : List Char := ['x', 'n', '-', '-']

/-- Decodes a label if it is in Punycode. What is decoded must not be pure ASCII and must be in
normal form. -/
def decodeLabel? (label : List Char) : Option (List Char) :=
  if punycodeMark.isPrefixOf label then do
    let decoded ← Punycode.decode? (label.drop 4)
    let inNormalForm := mapped? decoded = some decoded && Normal.compositionForm decoded = decoded
    if inNormalForm && decoded.any (fun c => 0x80 ≤ c.toNat) && !punycodeMark.isPrefixOf decoded
    then some decoded
    else none
  else some label

/-- Whether a label may stand in a domain name, its direction aside. -/
def labelAllowed (label : List Char) : Bool :=
  !(label.head?.any Category.mark.contains) && joinersAllowed [] label && !label.any isForbidden

/-- The normal form of a domain name. -/
def normalize? (text : List Char) : Option (List Char) :=
  if text.all (fun c => c.toNat < 0x80) && !(Text.pieces (· = '.') text).any
      (fun label => punycodeMark.isPrefixOf (label.map Char.toLower)) then
    if text.any isForbidden then none else some (text.map Char.toLower)
  else do
    let mapped ← mapped? text
    let labels ← (Text.pieces (· = '.') (Normal.compositionForm mapped)).mapM decodeLabel?
    if labels.all labelAllowed && (!labels.any hasRight || labels.all hasOneDirection) then
      some (['.'].intercalate labels)
    else none

end Routing.Url.Domain
