import Routing.Text.Pieces
import Routing.Unicode.Uppercase

/-!
# Breadcrumbs

The trail that leads to a page: the home page, and then one entry for every segment of the path,
with the URL up to that segment and a title made from it.
-/

namespace Routing

/-- One entry of a trail. -/
structure Breadcrumb where
  /-- Where the entry leads; it ends in a slash. -/
  url : String
  /-- The title of the entry. -/
  text : String
  deriving Repr, DecidableEq

namespace Breadcrumb

/-- The path without query and fragment. -/
def pathPart (path : List Char) : List Char :=
  path.takeWhile fun c => c ≠ '?' && c ≠ '#'

/-- The segments of a path; empty ones do not count. -/
def segments (path : List Char) : List (List Char) :=
  (Text.pieces (· = '/') (pathPart path)).filter (!·.isEmpty)

/-- The title for a segment: hyphens are blanks, and the first character is in upper case. -/
def title (segment : List Char) : List Char :=
  match segment.map fun c => if c = '-' then ' ' else c with
  | [] => []
  | c :: cs => Unicode.Uppercase.ofChar c ++ cs

/-- The entries for the segments behind the page at `url`. -/
def entries (url : List Char) : List (List Char) → List Breadcrumb
  | [] => []
  | segment :: rest =>
    let url := url ++ segment ++ ['/']
    { url := String.ofList url, text := String.ofList (title segment) } :: entries url rest

/-- The trail to a path; its first entry is the home page. -/
def trail (path home : String) : List Breadcrumb :=
  { url := "/", text := home } :: entries ['/'] (segments path.toList)

end Breadcrumb

end Routing
