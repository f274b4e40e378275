import Routing.Template.Basic

/-!
# Placeholders

What a slot of a template means: the values it takes, given as a fragment of a regular expression,
and the separator that belongs to it. A `/` or `.` directly in front of a placeholder is its
separator; it is left out together with the placeholder and is no part of its value.
-/

namespace Routing

/-- The values that a placeholder takes. -/
inductive PlaceholderKind where
  /-- One or more decimal digits. -/
  | integer
  /-- One or more letters and digits of ASCII. -/
  | alphanumeric
  /-- One or more hexadecimal digits. -/
  | hex
  /-- One or more letters, digits, hyphens and underscores. -/
  | slug
  /-- Anything within a line, as little as possible. -/
  | lazy
  /-- Anything within a line, as much as possible. -/
  | greedy
  /-- Anything without `/` and `.`. -/
  | segment
  /-- What a given regular expression matches. -/
  | custom (fragment : String)
  deriving Repr, DecidableEq

namespace PlaceholderKind

/-- The kind with a code; a code that is not built in is a regular expression. -/
def ofCode (code : String) : PlaceholderKind :=
  if code = "i" then integer
  else if code = "a" then alphanumeric
  else if code = "h" then hex
  else if code = "s" then slug
  else if code = "*" then lazy
  else if code = "**" then greedy
  else if code = "" then segment
  else custom code

/-- The regular expression for the values. -/
def fragment : PlaceholderKind → String
  | integer => "[0-9]+"
  | alphanumeric => "[0-9A-Za-z]+"
  | hex => "[0-9A-Fa-f]+"
  | slug => "[0-9A-Za-z_-]+"
  | lazy => ".+?"
  | greedy => ".+"
  | segment => "[^/.]+"
  | custom fragment => fragment

end PlaceholderKind

/-- A character that belongs to the placeholder behind it. -/
inductive Separator where
  /-- The character `/`. -/
  | slash
  /-- The character `.`. -/
  | dot
  deriving Repr, DecidableEq

namespace Separator

/-- The separator that a character is. -/
def ofChar? (c : Char) : Option Separator :=
  if c = '/' then some slash else if c = '.' then some dot else none

/-- The character itself. -/
def char : Separator → Char
  | slash => '/'
  | dot => '.'

/-- The regular expression for the character. -/
def fragment : Separator → String
  | slash => "/"
  | dot => "\\."

end Separator

/-- A placeholder as a template describes it. -/
structure Placeholder where
  /-- The values it takes. -/
  kind : PlaceholderKind
  /-- The separator that belongs to it. -/
  separator : Option Separator
  /-- The name under which its value is reported. -/
  name : Option String
  /-- Whether it may be left out, together with its separator. -/
  optional : Bool
  deriving Repr, DecidableEq

namespace Slot

/-- The separator at the end of the literal text in front of the placeholder. -/
def separator (slot : Slot) : Option Separator :=
  slot.lead.getLast?.bind Separator.ofChar?

/-- The literal text in front of the placeholder without its separator. -/
def literal (slot : Slot) : List Char :=
  if slot.separator.isSome then slot.lead.dropLast else slot.lead

/-- The values that the placeholder takes. -/
def kind (slot : Slot) : PlaceholderKind :=
  .ofCode slot.code

/-- The placeholder of the slot. -/
def placeholder (slot : Slot) : Placeholder where
  kind := slot.kind
  separator := slot.separator
  name := if slot.name = "" then none else some slot.name
  optional := slot.optional

/-- Literal text and separator together are the text in front of the placeholder. -/
theorem literal_append_separator (slot : Slot) :
    slot.literal ++ (slot.separator.map Separator.char).toList = slot.lead := by
  unfold literal separator
  rcases List.eq_nil_or_concat slot.lead with h | ⟨front, c, h⟩
  · simp [h]
  · by_cases hs : c = '/'
    · simp [h, hs, Separator.ofChar?, Separator.char]
    · by_cases hd : c = '.'
      · simp [h, hd, Separator.ofChar?, Separator.char]
      · simp [h, hs, hd, Separator.ofChar?]

end Slot

end Routing
