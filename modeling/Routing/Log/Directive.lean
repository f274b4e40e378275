import Routing.Log.Level
import Routing.Text.Blank
import Routing.Unicode.Letter

/-!
# Log directives

A directive sets the level for a target, for everything, or for the time spent in a span. It is
written `level`, `target`, `target=level` or `target[span]=level`, with the fields that a span must
have in braces behind its name. A directive without a level lets everything through.

The values of fields are only approximated. They are texts, of which whole numbers alone are brought
into one form, while a log may take them for numbers with a fraction or for patterns. Directives without
such values are exact.
-/

namespace Routing.Log

/-- A field that a span must have, possibly with a given value. -/
structure Field where
  /-- The name of the field. -/
  name : String
  /-- The value it must have. -/
  value : Option String
  deriving Repr, DecidableEq

namespace Field

/-- The whole number that a text writes, in plain form; other texts stay as they are. Numbers with a
fraction or an exponent are among these, so that `1.50` and `1.5` are different values. -/
def plainValue (text : List Char) : String :=
  match readUnsigned? text with
  | some n => toString n
  | none =>
    match text with
    | '-' :: digits =>
      match readUnsigned? (if digits.head? = some '+' then [] else digits) with
      | some n =>
        if n = 0 then "0" else if n ≤ UInt64.size / 2 then "-" ++ toString n else String.ofList text
      | none => String.ofList text
    | _ => String.ofList text

/-- Reads `name` or `name=value`; what follows a second equals sign does not count. A value that is no
number may be meant as a pattern. Whether it is a well-formed one is not checked: any value is read. -/
def ofText (text : List Char) : Field :=
  let (name, rest) := Text.cutAt (· = '=') text
  { name := String.ofList name
    value := rest.map fun rest => plainValue (Text.cutAt (· = '=') rest).1 }

/-- The field in its written form. -/
def render (field : Field) : String :=
  match field.value with
  | none => field.name
  | some value => field.name ++ "=" ++ value

/-- The texts by which fields are ordered; a field with a value comes after one without. Values are
compared by their texts, numbers too, so that `10` stands below `9`. -/
def key (field : Field) : List String :=
  [if field.value.isSome then "1" else "0", field.name, field.value.getD ""]

end Field

/-- A directive. -/
structure Directive where
  /-- The target; none for everything. -/
  target : Option String
  /-- The span in which the directive holds. -/
  span : Option String
  /-- The fields that the span must have. -/
  fields : List Field
  /-- The level. -/
  level : Level
  deriving Repr, DecidableEq

namespace Directive

/-- Whether a directive may begin with a character. -/
def mayBegin (c : Char) : Bool :=
  c = '-' || c = ':' || c = '_' || Unicode.isAlphabetic c || Unicode.isNumeric c

/-- Reads the level behind an equals sign; none is written for everything. -/
def readLevel? (text : List Char) : Option Level :=
  if text.isEmpty then some .trace else Level.ofText? (String.ofList text)

/-- Reads what may follow the brackets: nothing but blanks, or an equals sign and a level. -/
def readTail? (target span : Option String) (fields : List Field) (text : List Char) :
    Option Directive :=
  match text with
  | '=' :: level => (readLevel? level).map fun level => { target, span, fields, level }
  | rest => if rest.all Text.isBlank then some { target, span, fields, level := .trace } else none

/-- Reads what follows an opening bracket. -/
def readSpan? (target : Option String) (text : List Char) : Option Directive :=
  let name := text.takeWhile fun c => c ≠ ']' && c ≠ '\x7b'
  match text.drop name.length with
  | ']' :: rest => readTail? target (some (String.ofList name)) [] rest
  | '\x7b' :: rest =>
    let span := if name.isEmpty then none else some (String.ofList name)
    match Text.cutAt (· = '\x7d') rest with
    | ([], _) => none
    | (field, some (']' :: rest)) => readTail? target span [Field.ofText field] rest
    | _ => none
  | _ => none

/-- A directive of a single word: a level, or else a target. -/
def ofWord (word : List Char) : Directive :=
  match Level.ofText? (String.ofList word) with
  | some level => { target := none, span := none, fields := [], level }
  | none => { target := some (String.ofList word), span := none, fields := [], level := .trace }

/-- Reads a directive that begins with a word. -/
def readWord? (text : List Char) : Option Directive :=
  let word := text.takeWhile fun c => c ≠ '=' && c ≠ '['
  match text.drop word.length with
  | '=' :: level =>
    (readLevel? level).map fun level =>
      { target := some (String.ofList word), span := none, fields := [], level }
  | '[' :: rest => readSpan? (some (String.ofList word)) rest
  | _ => some (ofWord word)

/-- Reads a directive. Blanks count as parts of its words; where there are blanks in front, the
directive has to be a single word. So blanks in front of a bracket are refused, even where a log might
make out some span behind them. -/
def ofText? (text : List Char) : Option Directive :=
  match text with
  | [] => none
  | '[' :: rest => readSpan? none rest
  | c :: _ =>
    if mayBegin c then readWord? text
    else if Text.isBlank c && (text.dropWhile Text.isBlank).head?.any mayBegin &&
        text.all (fun c => c ≠ '=' && c ≠ '[') then some (ofWord text)
    else none

/-- Whether the directive depends on the span that is entered. -/
def isDynamic (directive : Directive) : Bool :=
  directive.span.isSome || !directive.fields.isEmpty

/-- Whether the directive can be decided without the values of a span. -/
def isStatic (directive : Directive) : Bool :=
  directive.span.isNone && directive.fields.all (·.value.isNone)

/-- The directive in its written form. -/
def render (directive : Directive) : String :=
  let fields := if directive.fields.isEmpty then ""
    else "\x7b" ++ ",".intercalate (directive.fields.map (·.render)) ++ "\x7d"
  let span := if directive.isDynamic then "[" ++ directive.span.getD "" ++ fields ++ "]" else ""
  let scope := directive.target.getD "" ++ span
  if directive.target.isNone && !directive.isDynamic then directive.level.name
  else scope ++ "=" ++ directive.level.name

/-- What two directives have in common when one replaces the other. -/
def sameScope (a b : Directive) : Bool :=
  a.target = b.target && a.span = b.span && a.fields = b.fields

/-- The properties by which directives are ordered, the most important first. -/
def specificity (directive : Directive) : List Nat :=
  [match directive.target with
    | none => 0
    | some target => target.utf8ByteSize + 1,
   if directive.span.isSome then 1 else 0,
   directive.fields.length]

/-- Whether a directive stands before another one: the more specific comes first, and of two that
are equally specific the one whose text is the greater. -/
def precedes (a b : Directive) : Bool :=
  let text (d : Directive) := [d.target.getD "", d.span.getD ""] ++ d.fields.flatMap (·.key)
  b.specificity < a.specificity || (a.specificity = b.specificity && text b < text a)

end Directive

end Routing.Log
