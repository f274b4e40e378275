import Routing.Regex.Node
import Routing.Text.Blank
import Routing.Unicode.Letter
import Routing.Unicode.Name

/-!
# Reading regular expressions

The reader walks through the text once and keeps the groups that are still open on a stack. Flags
take effect where they stand and last until the end of the group they stand in, across its
alternatives; they are resolved while reading, so that the tree holds none.

The dialect has groups, named groups, alternatives, repetitions with and without counts, the flags
`imsUuRx`, character properties and assertions. It has no look-around and no back references.
-/

namespace Routing.Regex

/-- The flags in force at a position. -/
structure Flags where
  /-- Letters match without regard to case. -/
  caseless : Bool := false
  /-- `^` and `$` match at line ends. -/
  multiLine : Bool := false
  /-- `.` matches line ends. -/
  dotAll : Bool := false
  /-- Repetitions are lazy unless marked. -/
  swapGreed : Bool := false
  /-- Classes hold characters of all scripts. -/
  unicode : Bool := true
  /-- Carriage returns end lines too. -/
  crlf : Bool := false
  /-- Blanks and comments in the expression are skipped. -/
  verbose : Bool := false
  deriving Repr, DecidableEq

/-- The letters of the flags. -/
inductive Flag where
  | caseless | multiLine | dotAll | swapGreed | unicode | crlf | verbose
  deriving Repr, DecidableEq

namespace Flag

/-- The flag with the given letter. -/
def ofChar? : Char → Option Flag
  | 'i' => some caseless
  | 'm' => some multiLine
  | 's' => some dotAll
  | 'U' => some swapGreed
  | 'u' => some unicode
  | 'R' => some crlf
  | 'x' => some verbose
  | _ => none

end Flag

namespace Flags

/-- The flags with one of them turned on or off. -/
def set (flags : Flags) (on : Bool) : Flag → Flags
  | .caseless => { flags with caseless := on }
  | .multiLine => { flags with multiLine := on }
  | .dotAll => { flags with dotAll := on }
  | .swapGreed => { flags with swapGreed := on }
  | .unicode => { flags with unicode := on }
  | .crlf => { flags with crlf := on }
  | .verbose => { flags with verbose := on }

/-- A set of characters closed under case if letters match without regard to case. -/
def close (flags : Flags) (set : CharSet) : CharSet :=
  if !flags.caseless then set else if flags.unicode then .fold set else .foldAscii set

/-- The expression for a character that stands for itself. -/
def literal (flags : Flags) (c : Char) : Node :=
  .set (flags.close (.single c))

/-- The expression for `.`, which needs the full range of characters. -/
def dot? (flags : Flags) : Option Node :=
  if !flags.unicode then none
  else if flags.dotAll then some (.set (.ranges [(0, 0x10FFFF)]))
  else if flags.crlf then some (.set (.compl (.ranges [(0x0A, 0x0A), (0x0D, 0x0D)])))
  else some (.set (.compl (.single '\n')))

/-- The condition for `^`. -/
def lineStart (flags : Flags) : Look :=
  if flags.multiLine then .lineStart flags.crlf else .textStart

/-- The condition for `$`. -/
def lineEnd (flags : Flags) : Look :=
  if flags.multiLine then .lineEnd flags.crlf else .textEnd

/-- A set or its complement. Without the flag `u` a complement is refused, because it would hold
bytes that are no characters. -/
def complement? (flags : Flags) (negated : Bool) (set : CharSet) : Option Node :=
  if !negated then some (.set set)
  else if flags.unicode then some (.set (.compl set))
  else none

/-- The class that an escaped letter stands for, in its two extents. -/
def shorthand? (flags : Flags) (negated : Bool) (unicode : CharSet)
    (ascii : Unicode.RangeTable) : Option Node :=
  flags.complement? negated (if flags.unicode then unicode else .ranges ascii)

end Flags

namespace Parser

/-! ## Tokens -/

/-- Skips blanks and comments; a comment runs from `#` to the end of the line. -/
def skipIgnored (inComment : Bool) : List Char → List Char
  | [] => []
  | c :: cs =>
    if inComment then skipIgnored (c ≠ '\n') cs
    else if Text.isBlank c then skipIgnored false cs
    else if c = '#' then skipIgnored true cs
    else c :: cs

/-- Skips what the flags in force let a reader skip. -/
def skip (flags : Flags) (cs : List Char) : List Char :=
  if flags.verbose then skipIgnored false cs else cs

/-- Reads up to a closing brace, without the characters that are skipped. -/
def readBraced (verbose inComment : Bool) : List Char → Option (List Char × List Char)
  | [] => none
  | c :: cs =>
    if inComment then readBraced verbose (c ≠ '\n') cs
    else if verbose && Text.isBlank c then readBraced verbose false cs
    else if verbose && c = '#' then readBraced verbose true cs
    else if c = '\x7d' then some ([], cs)
    else (readBraced verbose false cs).map fun (content, rest) => (c :: content, rest)

/-- Reads exactly `count` hexadecimal digits. -/
def readHexDigits (flags : Flags) : Nat → List Char → Option (List Char × List Char)
  | 0, cs => some ([], cs)
  | count + 1, cs =>
    match skip flags cs with
    | [] => none
    | c :: cs =>
      if (Text.hexValue? c).isSome then
        (readHexDigits flags count cs).map fun (digits, rest) => (c :: digits, rest)
      else none

/-- The character with the given code point. -/
def scalar? (code : Nat) : Option Char :=
  if code.isValidChar then some (Char.ofNat code) else none

/-- Reads a code point, either of `width` digits or in braces. A byte beyond ASCII is refused
without the flag `u`. -/
def readCode (flags : Flags) (width : Nat) (cs : List Char) : Option (Char × List Char) :=
  match skip flags cs with
  | '\x7b' :: cs => do
    let (digits, rest) ← readBraced flags.verbose false cs
    if digits.isEmpty then none
    let c ← (Text.numeral? 16 Text.hexValue? digits).bind scalar?
    some (c, rest)
  | cs => do
    let (digits, rest) ← readHexDigits flags width cs
    let c ← (Text.numeral? 16 Text.hexValue? digits).bind scalar?
    if width = 2 && !flags.unicode && 0x80 ≤ c.toNat then none
    some (c, rest)

/-- Reads a property name, one letter or in braces. -/
def readPropertyName (flags : Flags) (cs : List Char) : Option (List Char × List Char) :=
  match skip flags cs with
  | [] => none
  | '\x7b' :: cs => readBraced flags.verbose false cs
  | '\\' :: _ => none
  | c :: cs => some ([c], cs)

/-- The class of the characters with a property, or without it. -/
def propertyNode? (flags : Flags) (negated : Bool) (name : List Char) : Option Node :=
  if !flags.unicode then none
  else (Unicode.property? name).map fun (table, outside) =>
    let set := flags.close (.ranges table)
    .set (if negated ≠ outside then .compl set else set)

/-- Reads what follows `\p` or `\P`. -/
def readProperty (flags : Flags) (negated : Bool) (cs : List Char) : Option (Node × List Char) :=
  (readPropertyName flags cs).bind fun (name, rest) =>
    (propertyNode? flags negated name).map (·, rest)

/-- Reads what may follow `\b`: a word in braces that names an edge, or nothing. Braces that do not
begin with a letter or a hyphen are left for a repetition. -/
def readWordEdge (flags : Flags) (cs : List Char) : Option (WordEdge × List Char) :=
  match cs with
  | '\x7b' :: inside =>
    match skip flags inside with
    | [] => none
    | c :: _ =>
      if c.isAlpha || c = '-' then do
        let (name, rest) ← readBraced flags.verbose false inside
        match String.ofList name with
        | "start" => some (.start, rest)
        | "end" => some (.stop, rest)
        | "start-half" => some (.startHalf, rest)
        | "end-half" => some (.stopHalf, rest)
        | _ => none
      else some (.boundary, cs)
  | cs => some (.boundary, cs)

/-- Reads what follows a backslash. -/
def readEscape (flags : Flags) : List Char → Option (Node × List Char)
  | [] => none
  | c :: cs =>
    let code (width : Nat) := (readCode flags width cs).map fun (d, rest) => (flags.literal d, rest)
    let shorthand (negated : Bool) (unicode : CharSet) (ascii : Unicode.RangeTable) :=
      (flags.shorthand? negated unicode ascii).map (·, cs)
    let look (edge : WordEdge) : Option (Node × List Char) :=
      some (.look (.word edge flags.unicode), cs)
    match c with
    | 'x' => code 2
    | 'u' => code 4
    | 'U' => code 8
    | 'p' => readProperty flags false cs
    | 'P' => readProperty flags true cs
    | 'd' => shorthand false .digit CharSet.asciiDigits
    | 'D' => shorthand true .digit CharSet.asciiDigits
    | 's' => shorthand false .space CharSet.asciiSpaces
    | 'S' => shorthand true .space CharSet.asciiSpaces
    | 'w' => shorthand false .word CharSet.asciiWords
    | 'W' => shorthand true .word CharSet.asciiWords
    | 'a' => some (flags.literal '\x07', cs)
    | 'f' => some (flags.literal '\x0C', cs)
    | 't' => some (flags.literal '\t', cs)
    | 'n' => some (flags.literal '\n', cs)
    | 'r' => some (flags.literal '\r', cs)
    | 'v' => some (flags.literal '\x0B', cs)
    | 'A' => some (.look .textStart, cs)
    | 'z' => some (.look .textEnd, cs)
    | 'b' =>
      (readWordEdge flags cs).map fun (edge, rest) => (.look (.word edge flags.unicode), rest)
    | 'B' => look .interior
    | '<' => look .start
    | '>' => look .stop
    | c => if c.toNat < 0x80 && !c.isAlphanum then some (flags.literal c, cs) else none

/-- One count of a repetition: decimal digits between blanks, below 2^32. -/
def readCount? (digits : List Char) : Option Nat := do
  let digits := Text.stripWhile Text.isBlank digits
  if digits.isEmpty then none
  let n ← Text.numeral? 10 Text.digitValue? digits
  if n < UInt32.size then some n else none

/-- The least and greatest number of rounds that braces ask for. -/
def readCounts? (content : List Char) : Option (Nat × Option Nat) :=
  match Text.cutAt (· = ',') content with
  | (exact, none) => (readCount? exact).map fun n => (n, some n)
  | (least, some []) => (readCount? least).map fun n => (n, none)
  | (least, some most) => do
    let n ← readCount? least
    let m ← readCount? most
    if n ≤ m then some (n, some m) else none

/-- Reads the members of a class in brackets: characters and ranges. -/
def readMembers : List Char → Option (Unicode.RangeTable × List Char)
  | [] => none
  | ']' :: cs => some ([], cs)
  | c :: '-' :: ']' :: cs => some ([(c.toNat, c.toNat), (0x2D, 0x2D)], cs)
  | c :: '-' :: d :: cs =>
    if d < c then none
    else (readMembers cs).map fun (table, rest) => ((c.toNat, d.toNat) :: table, rest)
  | c :: cs => (readMembers cs).map fun (table, rest) => ((c.toNat, c.toNat) :: table, rest)

/-- Reads a class after its opening bracket. -/
def readClass (flags : Flags) (cs : List Char) : Option (Node × List Char) := do
  let (negated, cs) := match cs with
    | '^' :: cs => (true, cs)
    | cs => (false, cs)
  let (table, rest) ← readMembers cs
  let node ← flags.complement? negated (flags.close (.ranges table))
  some (node, rest)

/-- What ends a list of flags. -/
inductive FlagsEnd where
  /-- The flags hold from here on. -/
  | here
  /-- The flags hold in the group that begins. -/
  | group
  deriving Repr, DecidableEq

/-- Reads flags up to a colon or a closing parenthesis. No flag may be given twice, and a hyphen,
which turns the following flags off, may stand once and not at the end. -/
def readFlags (flags : Flags) (given : List Flag) (negated dangling : Bool) :
    List Char → Option (Flags × List Flag × FlagsEnd × List Char)
  | [] => none
  | ':' :: cs => if dangling then none else some (flags, given, .group, cs)
  | ')' :: cs => if dangling then none else some (flags, given, .here, cs)
  | '-' :: cs => if negated then none else readFlags flags given true true cs
  | c :: cs =>
    match Flag.ofChar? c with
    | none => none
    | some flag =>
      if flag ∈ given then none
      else readFlags (flags.set (!negated) flag) (flag :: given) negated false cs

/-- Whether a character may stand in a group name. -/
def isNameChar (first : Bool) (c : Char) : Bool :=
  c = '_' || Unicode.isAlphabetic c ||
    (!first && (c = '.' || c = '[' || c = ']' || Unicode.isNumeric c))

/-- Reads a group name up to its closing angle bracket. -/
def readName (first : Bool) : List Char → Option (List Char × List Char)
  | [] => none
  | c :: cs =>
    if c = '>' then if first then none else some ([], cs)
    else if isNameChar first c then
      (readName false cs).map fun (name, rest) => (c :: name, rest)
    else none

/-! ## The stack of open groups -/

/-- An item of a sequence. -/
structure Piece where
  /-- The expression. -/
  node : Node
  /-- How deeply the syntax of the item is nested. -/
  height : Nat := 0
  /-- Whether a repetition may follow; it may not follow flags. -/
  repeatable : Bool := true
  deriving Repr, DecidableEq

/-- A group whose end has not been read yet, or the whole expression. -/
structure Level where
  /-- The flags in force. -/
  flags : Flags := {}
  /-- The items of the current alternative, the latest first. -/
  pieces : List Piece := []
  /-- The alternatives already complete, the latest first. -/
  branches : List Piece := []
  deriving Repr, DecidableEq

/-- What a group does with its body. -/
inductive GroupKind where
  /-- It only holds it together. -/
  | plain
  /-- It captures what the body consumes. -/
  | capture (index : Nat) (name : Option String)
  deriving Repr, DecidableEq

/-- The progress of a reader. -/
structure State where
  /-- The innermost open group. -/
  level : Level := {}
  /-- The kinds of the open groups with the levels around them, the innermost first. -/
  outer : List (GroupKind × Level) := []
  /-- The number of capturing groups opened so far. -/
  count : Nat := 0
  /-- The names of groups used so far. -/
  names : List String := []
  deriving Repr, DecidableEq

/-- The expressions joined by `join`; one alone stands for itself and adds no nesting. -/
def joined (join : List Node → Node) (pieces : List Piece) : Piece :=
  match pieces with
  | [piece] => { piece with repeatable := true }
  | pieces =>
    { node := join (pieces.map (·.node))
      height := (pieces.map (·.height)).foldl Nat.max 0 + if pieces.isEmpty then 0 else 1 }

namespace Level

/-- The current alternative. -/
def branch (level : Level) : Piece :=
  joined Node.catAll level.pieces.reverse

/-- The whole body of the group. -/
def body (level : Level) : Piece :=
  joined Node.altAll (level.branch :: level.branches).reverse

end Level

namespace GroupKind

/-- The item that a group is, given its body. -/
def close (kind : GroupKind) (body : Piece) : Piece :=
  { node := match kind with
      | plain => body.node
      | capture index name => .group index name body.node
    height := body.height + 1 }

end GroupKind

namespace State

/-- Adds an item to the current alternative. -/
def push (s : State) (piece : Piece) : State :=
  { s with level := { s.level with pieces := piece :: s.level.pieces } }

/-- Adds an item without nested syntax. -/
def pushNode (s : State) (node : Node) : State :=
  s.push { node }

/-- Opens a group. -/
def openGroup (s : State) (kind : GroupKind) (flags : Flags) : State :=
  { s with level := { flags }, outer := (kind, s.level) :: s.outer }

/-- Opens a capturing group; a name must be new. -/
def openCapture (s : State) (name : Option String) : Option State :=
  if name.any s.names.contains then none
  else
    let s := s.openGroup (.capture (s.count + 1) name) s.level.flags
    some { s with count := s.count + 1, names := name.toList ++ s.names }

/-- Closes the innermost group. -/
def closeGroup (s : State) : Option State :=
  match s.outer with
  | [] => none
  | (kind, level) :: outer =>
    some ({ s with level, outer }.push (kind.close s.level.body))

/-- Begins the next alternative. -/
def nextBranch (s : State) : State :=
  { s with level :=
      { s.level with pieces := [], branches := s.level.branch :: s.level.branches } }

/-- Repeats the latest item. -/
def repeatLast (s : State) (min : Nat) (max : Option Nat) (greedy : Bool) : Option State :=
  match s.level.pieces with
  | [] => none
  | piece :: pieces =>
    if !piece.repeatable then none
    else
      let node := Node.repeated min max (greedy ≠ s.level.flags.swapGreed) piece.node
      some { s with level :=
        { s.level with pieces := { node, height := piece.height + 1 } :: pieces } }

/-- Repeats the latest item and reads the mark of a lazy repetition. -/
def repeatMarked (s : State) (min : Nat) (max : Option Nat) (cs : List Char) :
    Option (State × List Char) :=
  match cs with
  | '?' :: cs => (s.repeatLast min max false).map (·, cs)
  | cs => (s.repeatLast min max true).map (·, cs)

/-- Opens a capturing group after reading its name. -/
def openNamed (s : State) (cs : List Char) : Option (State × List Char) :=
  (readName true cs).bind fun (name, rest) =>
    (s.openCapture (some (String.ofList name))).map (·, rest)

/-- Takes up flags, either for a group that begins or for what remains of the innermost one. -/
def takeFlags (s : State) (flags : Flags) (given : List Flag) : FlagsEnd → Option State
  | .group => some (s.openGroup .plain flags)
  | .here =>
    if given.isEmpty then none
    else
      let s := s.push { node := .empty, repeatable := false }
      some { s with level := { s.level with flags } }

/-- Reads what follows an opening parenthesis. -/
def readGroup (s : State) (cs : List Char) : Option (State × List Char) :=
  match skip s.level.flags cs with
  | '?' :: '=' :: _ => none
  | '?' :: '!' :: _ => none
  | '?' :: '<' :: '=' :: _ => none
  | '?' :: '<' :: '!' :: _ => none
  | '?' :: 'P' :: '<' :: cs => s.openNamed cs
  | '?' :: '<' :: cs => s.openNamed cs
  | '?' :: cs =>
    (readFlags s.level.flags [] false false cs).bind fun (flags, given, stop, rest) =>
      (s.takeFlags flags given stop).map (·, rest)
  | cs => (s.openCapture none).map (·, cs)

/-- Reads one token. -/
def step (s : State) : List Char → Option (State × List Char)
  | [] => none
  | c :: cs =>
    let flags := s.level.flags
    let item (read : Option (Node × List Char)) : Option (State × List Char) :=
      read.map fun (node, rest) => (s.pushNode node, rest)
    match c with
    | '(' => s.readGroup cs
    | ')' => s.closeGroup.map (·, cs)
    | '|' => some (s.nextBranch, cs)
    | '?' => s.repeatMarked 0 (some 1) cs
    | '*' => s.repeatMarked 0 none cs
    | '+' => s.repeatMarked 1 none cs
    | '\x7b' => do
      let (content, rest) ← readBraced flags.verbose false cs
      let (min, max) ← readCounts? content
      s.repeatMarked min max (skip flags rest)
    | '[' => (readClass flags cs).map fun (node, rest) => (s.push { node, height := 1 }, rest)
    | '\\' => item (readEscape flags cs)
    | '.' => item (flags.dot?.map (·, cs))
    | '^' => item (some (.look flags.lineStart, cs))
    | '$' => item (some (.look flags.lineEnd, cs))
    | c => item (some (flags.literal c, cs))

/-- Reads to the end of the text. Every token takes a character at least, so `fuel` larger than the
length of the text is enough. -/
def run : Nat → State → List Char → Option State
  | 0, _, _ => none
  | fuel + 1, s, cs =>
    match skip s.level.flags cs with
    | [] => some s
    | cs => (s.step cs).bind fun (s, rest) => run fuel s rest

/-- The expression that has been read; every group must have been closed. -/
def result (s : State) : Option Piece :=
  if s.outer.isEmpty then some s.level.body else none

end State

/-- The deepest nesting of syntax that is accepted. -/
def maxHeight : Nat := 250

/-- The largest automaton that is accepted, in bytes. -/
def maxWeight : Nat := 10 * 1024 * 1024

/-- Reads a regular expression. -/
def parse? (cs : List Char) : Option Node := do
  let s ← State.run (cs.length + 1) {} cs
  let piece ← s.result
  if piece.height ≤ maxHeight && piece.node.weight ≤ maxWeight then some piece.node else none

end Parser

end Routing.Regex
