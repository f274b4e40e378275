import Routing.Text.Percent
import Routing.Text.Pieces
import Routing.Url.Scheme

/-!
# Paths of URLs

A path is a list of segments, each with a slash in front. While a path is read its segments are
percent-encoded and dot segments are resolved: `.` stands for nothing, `..` takes the segment before
it away. Either leaves an empty segment if it is the last one. A segment that is a drive letter is
never taken away.
-/

namespace Routing.Url

/-- A segment of a path. -/
abbrev Segment := List Char

namespace Path

/-- The printable ASCII characters that stand for themselves in a path. -/
def isPlain (c : Char) : Bool :=
  0x21 ≤ c.toNat && c.toNat ≤ 0x7E &&
    c ∉ ['"', '#', '<', '>', '?', '\x60', '\x7b', '\x7d']

/-- The spellings of a single dot. -/
def singleDots : List Segment :=
  [['.'], ['%', '2', 'e'], ['%', '2', 'E']]

/-- The spellings of two dots. -/
def doubleDots : List Segment :=
  singleDots.flatMap fun first => singleDots.map fun second => first ++ second

/-- Whether a segment is a drive letter: a letter with a colon or a bar. -/
def isDriveLetter (segment : Segment) : Bool :=
  match segment with
  | [letter, mark] => letter.isAlpha && (mark = ':' || mark = '|')
  | _ => false

/-- The segments that remain when the last one is taken away; the list has the last one first. -/
def leave (done : List Segment) : List Segment :=
  match done with
  | [] => []
  | segment :: rest => if isDriveLetter segment then segment :: rest else rest

/-- The form of a segment behind the segments `done`. A drive letter at the beginning of the path of
a file gets a colon. -/
def settle (kind : SchemeKind) (done : List Segment) (segment : Segment) : Segment :=
  if kind = .file && done.isEmpty && isDriveLetter segment then [segment.headD ':', ':']
  else segment

/-- The segments after one more, with the last one first. -/
def enter (kind : SchemeKind) (done : List Segment) (segment : Segment) : List Segment :=
  if segment ∈ doubleDots then leave done
  else if segment ∈ singleDots then done
  else settle kind done segment :: done

/-- The segments of a path, given those already read, the last one first, and those still to be
read. -/
def resolve (kind : SchemeKind) (done : List Segment) : List Segment → List Segment
  | [] => done.reverse
  | [last] =>
    if last ∈ doubleDots ∨ last ∈ singleDots then ([] :: enter kind done last).reverse
    else (enter kind done last).reverse
  | segment :: segments => resolve kind (enter kind done segment) segments

/-- The segments without empty ones at the beginning, the last segment aside. -/
def collapse : List Segment → List Segment
  | [] :: segment :: segments => collapse (segment :: segments)
  | segments => segments

/-- The segments of a path, given the text behind its first slash. -/
def segments (kind : SchemeKind) (text : List Char) : List Segment :=
  let pieces := (Text.pieces kind.isSlash text).map (Text.Percent.encode isPlain)
  let resolved := resolve kind [] pieces
  if kind = .file then collapse resolved else resolved

/-- The text of a path: every segment behind a slash. -/
def render (segments : List Segment) : List Char :=
  segments.flatMap fun segment => '/' :: segment

end Path

namespace Query

/-- The printable ASCII characters that stand for themselves in a query. -/
def isPlain (kind : SchemeKind) (c : Char) : Bool :=
  0x21 ≤ c.toNat && c.toNat ≤ 0x7E && c ∉ ['"', '#', '<', '>'] &&
    (kind = .other || c ≠ '\x27')

/-- The query that begins a text, if one does; a fragment ends it. -/
def ofText? (kind : SchemeKind) (text : List Char) : Option (List Char) :=
  match text with
  | '?' :: query => some (Text.Percent.encode (isPlain kind) (query.takeWhile (· ≠ '#')))
  | _ => none

end Query

end Routing.Url
