import Routing.Text.Ascii

/-!
# Schemes

How the rest of a URL is read depends on its scheme: web schemes have an authority, files have
paths with drive letters, and about all other schemes nothing is assumed. In the first two kinds a
backslash separates like a slash.
-/

namespace Routing.Url

/-- The kinds of schemes that are read differently. -/
inductive SchemeKind where
  /-- A scheme of the web; its URLs have a host. -/
  | web
  /-- The scheme of files. -/
  | file
  /-- Any other scheme. -/
  | other
  deriving Repr, DecidableEq

namespace SchemeKind

/-- The kind of a scheme in lower case. -/
def ofScheme (scheme : String) : SchemeKind :=
  if scheme ∈ ["http", "https", "ws", "wss", "ftp"] then web
  else if scheme = "file" then file
  else other

/-- Whether a character separates segments of a path. -/
def isSlash (kind : SchemeKind) (c : Char) : Bool :=
  c = '/' || (kind ≠ other && c = '\\')

/-- Whether a character ends an authority. -/
def endsAuthority (kind : SchemeKind) (c : Char) : Bool :=
  kind.isSlash c || c = '?' || c = '#'

end SchemeKind

/-- Reads the letters, digits, plus and minus signs and dots up to a colon. -/
def readSchemeTail : List Char → Option (List Char × List Char)
  | [] => none
  | c :: cs =>
    if c = ':' then some ([], cs)
    else if c.isAlphanum || c = '+' || c = '-' || c = '.' then
      (readSchemeTail cs).map fun (scheme, rest) => (c.toLower :: scheme, rest)
    else none

/-- Reads a scheme, which begins with a letter and ends with a colon; it is given in lower case. -/
def readScheme (cs : List Char) : Option (String × List Char) :=
  match cs with
  | [] => none
  | c :: _ =>
    if c.isAlpha then (readSchemeTail cs).map fun (scheme, rest) => (String.ofList scheme, rest)
    else none

end Routing.Url
