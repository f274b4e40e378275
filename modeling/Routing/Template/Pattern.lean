import Routing.Regex.Basic
import Routing.Regex.Escape
import Routing.Template.Placeholder

/-!
# Compiled templates

A template becomes one regular expression that is anchored at both ends. Its literal text is
escaped, and the value of the placeholder with number `k` is captured under the group name `pk`.
Names given in a template never enter the expression, so they may be any text; the captures are
brought back to them by position.
-/

namespace Routing

namespace Template

/-- The group that captures the value of the placeholder with a number. -/
def groupName (k : Nat) : String :=
  String.ofList ('p' :: Nat.toDigits 10 k)

/-- The expression for a slot: its literal text, and in a group of its own the separator and the
capture of the value. -/
def slotExpression (slot : Slot) (k : Nat) : List Char :=
  Regex.escape slot.literal ++ "(?:".toList ++
    ((slot.separator.map Separator.fragment).getD "").toList ++
    "(?P<".toList ++ (groupName k).toList ++ ">".toList ++ slot.kind.fragment.toList ++
    "))".toList ++ (if slot.optional then "?".toList else [])

/-- The expressions for slots numbered from `k` on. -/
def slotExpressions (k : Nat) : List Slot → List Char
  | [] => []
  | slot :: slots => slotExpression slot k ++ slotExpressions (k + 1) slots

/-- The regular expression for the whole template. -/
def expression (template : Template) : String :=
  String.ofList ('^' :: slotExpressions 0 template.slots ++ Regex.escape template.tail ++ ['$'])

end Template

/-- A template together with its regular expression. -/
structure Pattern where
  /-- The slots of the template. -/
  slots : List Slot
  /-- The anchored regular expression. -/
  regex : Regex
  deriving Repr, DecidableEq

namespace Pattern

/-- Compiles a template. Defects of the brackets come before those of the expression. -/
def compile (text : String) : Except TemplateDefect Pattern := do
  let template ← Template.ofText text
  match Regex.ofText? template.expression with
  | some regex => return { slots := template.slots, regex }
  | none => throw .badExpression

variable {text : String} {template : Template}

/-- Defects of the brackets are reported as they are. -/
theorem compile_of_malformed {defect : TemplateDefect} (h : Template.ofText text = .error defect) :
    compile text = .error defect := by
  rw [compile, h]
  rfl

/-- A template is compiled if its expression can be read. -/
theorem compile_of_ofText (h : Template.ofText text = .ok template) :
    compile text = match Regex.ofText? template.expression with
      | some regex => .ok { slots := template.slots, regex }
      | none => .error .badExpression := by
  simp only [compile, h, bind, Except.bind]
  cases Regex.ofText? template.expression <;> rfl

theorem compile_eq_ok_iff {pattern : Pattern} : compile text = .ok pattern ↔
    ∃ template, Template.ofText text = .ok template ∧
      Regex.ofText? template.expression = some pattern.regex ∧ pattern.slots = template.slots := by
  constructor
  · intro h
    cases hread : Template.ofText text with
    | error defect =>
      rw [compile_of_malformed hread] at h
      exact absurd h (by simp)
    | ok template =>
      rw [compile_of_ofText hread] at h
      cases hregex : Regex.ofText? template.expression with
      | none => simp [hregex] at h
      | some regex =>
        rw [hregex] at h
        obtain rfl := Except.ok.inj h
        exact ⟨template, rfl, hregex, rfl⟩
  · rintro ⟨template, hread, hregex, hslots⟩
    rw [compile_of_ofText hread, hregex, ← hslots]

/-- The placeholders in order. -/
def placeholders (pattern : Pattern) : List Placeholder :=
  pattern.slots.map Slot.placeholder

/-- The names of the placeholders in order, empty for those without one. -/
def names (pattern : Pattern) : List String :=
  pattern.slots.map Slot.name

/-- Whether the pattern matches a path. -/
def isMatch (pattern : Pattern) (path : String) : Bool :=
  (pattern.regex.search path).isSome

/-- The named values among those of the slots numbered from `k` on, for a match in `path`. -/
def namedValues (regex : Regex) (found : Regex.Match) (path : String) (k : Nat) :
    List Slot → List (String × String)
  | [] => []
  | slot :: slots =>
    let later := namedValues regex found path (k + 1) slots
    if slot.name = "" then later
    else match regex.captured? found path (Template.groupName k) with
      | some value => (slot.name, value) :: later
      | none => later

/-- The values of the named placeholders that take part in the match of a path, in order. -/
def captures (pattern : Pattern) (path : String) : Option (List (String × String)) :=
  (pattern.regex.search path).map fun found =>
    namedValues pattern.regex found path 0 pattern.slots

/-- A path has captures exactly when it is matched. -/
theorem isSome_captures (pattern : Pattern) (path : String) :
    (pattern.captures path).isSome = pattern.isMatch path := by
  simp [captures, isMatch]

end Pattern

end Routing
