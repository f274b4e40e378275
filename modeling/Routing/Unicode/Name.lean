import Routing.Unicode.Category
import Routing.Unicode.Property
import Routing.Unicode.ScriptExtension

/-!
# Properties by name

A set of characters can be named by a general category, a script or a binary property, alone or as
a value of a named property (`Greek`, `sc=Greek`, `gc!=Lu`). Names are compared loosely: case,
blanks, hyphens and underscores do not count, nor does a leading `is`.
-/

namespace Routing.Unicode

/-- A property name in its loose form. -/
def looseName (name : List Char) : String :=
  let lowered := name.map Char.toLower
  let (hadIs, body) := match lowered with
    | 'i' :: 's' :: rest => (true, rest)
    | other => (false, other)
  let kept := body.filter fun c => c.toNat < 0x80 && c ≠ ' ' && c ≠ '_' && c ≠ '-'
  if hadIs && kept = ['c'] then "isc" else String.ofList kept

/-- The characters that a single name stands for. A binary property wins over a category, a
category over a script; three abbreviations are kept for categories. -/
def named? (name : String) : Option RangeTable :=
  let binary := if name ∈ ["cf", "sc", "lc"] then none else Property.named? name
  binary <|> Category.named? name <|> Script.named? name

/-- The characters whose property `property` has the value `value`. -/
def valued? (property value : String) : Option RangeTable :=
  if property ∈ ["gc", "generalcategory"] then Category.named? value
  else if property ∈ ["sc", "script"] then Script.named? value
  else if property ∈ ["scx", "scriptextensions"] then ScriptExtension.named? value
  else none

/-- Reads `name`, `property=value`, `property:value` or `property!=value`. The second component tells
whether the characters outside the table are meant. -/
def property? (text : List Char) : Option (RangeTable × Bool) :=
  match Text.cutAt (· = ':') text with
  | (property, some value) =>
    (valued? (looseName property) (looseName value)).map (·, false)
  | (_, none) =>
    match Text.cutAt (· = '=') text with
    | (_, none) => (named? (looseName text)).map (·, false)
    | (property, some value) =>
      match property.getLast? with
      | some '!' =>
        (valued? (looseName property.dropLast) (looseName value)).map (·, true)
      | _ => (valued? (looseName property) (looseName value)).map (·, false)

end Routing.Unicode
