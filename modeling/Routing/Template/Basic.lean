import Routing.Template.Defect
import Routing.Text.Pieces

/-!
# Route templates

A template is literal text with placeholders in it. A placeholder is written `[code:name]` or
`[code]`, with a question mark behind it if it is optional. Reading a template gives its
placeholders, each with the literal text in front of it, and the literal text at the end.
-/

namespace Routing

/-- A placeholder together with the literal text in front of it. -/
structure Slot where
  /-- The literal text between the placeholder before, or the beginning, and this one. -/
  lead : List Char
  /-- The code that tells which values the placeholder takes. -/
  code : String
  /-- The name under which the value is reported; empty if it is not. -/
  name : String
  /-- Whether the placeholder may be left out. -/
  optional : Bool
  deriving Repr, DecidableEq

/-- A route template. -/
structure Template where
  /-- The placeholders in order. -/
  slots : List Slot
  /-- The literal text behind the last placeholder. -/
  tail : List Char
  deriving Repr, DecidableEq

namespace Template

/-- The template that begins with one more literal character. -/
def consChar (c : Char) : Template → Template
  | ⟨[], tail⟩ => ⟨[], c :: tail⟩
  | ⟨slot :: slots, tail⟩ => ⟨{ slot with lead := c :: slot.lead } :: slots, tail⟩

/-- The template that begins with one more placeholder, given what stands in its brackets. -/
def consBody (body : List Char) (optional : Bool) (template : Template) : Template :=
  let (code, name) := Text.cutAt (· = ':') body
  let slot := ⟨[], String.ofList code, String.ofList (name.getD []), optional⟩
  { template with slots := slot :: template.slots }

/-- What is wrong with the text between the brackets of a placeholder that begins at `start`. -/
def bodyDefect? (start : Nat) (body : List Char) : Option TemplateDefect :=
  if '[' ∈ body then some (.nested start)
  else if 1 < body.count ':' then some (.repeatedColon (String.ofList body))
  else none

mutual

/-- Reads literal text from the byte `offset` on. -/
def readLiteral (offset : Nat) : List Char → Except TemplateDefect Template
  | [] => .ok ⟨[], []⟩
  | c :: cs =>
    if c = '[' then readBody offset [] (offset + 1) cs
    else if c = ']' then .error (.unbalanced offset)
    else (readLiteral (offset + c.utf8Size) cs).map (consChar c)

/-- Reads a placeholder that begins at the byte `start`; `body` is what has been read of it, in
reverse. -/
def readBody (start : Nat) (body : List Char) (offset : Nat) :
    List Char → Except TemplateDefect Template
  | [] => .error (.unclosed start)
  | ']' :: '?' :: cs =>
    match bodyDefect? start body.reverse with
    | some defect => .error defect
    | none => (readLiteral (offset + 2) cs).map (consBody body.reverse true)
  | ']' :: cs =>
    match bodyDefect? start body.reverse with
    | some defect => .error defect
    | none => (readLiteral (offset + 1) cs).map (consBody body.reverse false)
  | c :: cs => readBody start (c :: body) (offset + c.utf8Size) cs

end

/-- Reads a template; of several defects the leftmost is reported. -/
def ofText (text : String) : Except TemplateDefect Template :=
  readLiteral 0 text.toList

end Template

end Routing
