import Routing.Url.Host
import Routing.Url.Path

/-!
# URLs

A URL is read down to the two parts that routing looks at, its path and its query. All else is
checked and then dropped. Text without a scheme is read relative to a web page at the root of its
host.
-/

namespace Routing

/-- The parts of a URL that routing looks at. -/
structure Url where
  /-- The path; a URL of an unknown scheme may have none that begins with a slash. -/
  path : Option (List Char)
  /-- The query. -/
  query : Option (List Char)
  deriving Repr, DecidableEq

namespace Url

/-- The text without control characters and blanks at its ends and without tabs and line ends. -/
def clean (text : List Char) : List Char :=
  (Text.stripWhile (fun c => c.toNat ≤ 0x20) text).filter fun c =>
    c ≠ '\t' && c ≠ '\n' && c ≠ '\r'

/-- Whether a character ends a path. -/
def endsPath (c : Char) : Bool :=
  c = '?' || c = '#'

/-- The text without a slash at its beginning. -/
def dropSlash (kind : SchemeKind) (text : List Char) : List Char :=
  match text with
  | [] => []
  | c :: cs => if kind.isSlash c then cs else text

/-- The URL with a path, given the text behind the first slash of the path. -/
def ofPathText (kind : SchemeKind) (text : List Char) : Url where
  path := some (Path.render (Path.segments kind (text.takeWhile fun c => !endsPath c)))
  query := Query.ofText? kind (text.dropWhile fun c => !endsPath c)

/-- The URL without a path that begins with a slash. -/
def pathless (kind : SchemeKind) (text : List Char) : Url where
  path := none
  query := Query.ofText? kind (text.dropWhile fun c => !endsPath c)

/-- The text before the last `@` and that behind it. -/
def splitCredentials (authority : List Char) : Option (List Char) × List Char :=
  let host := (authority.reverse.takeWhile (· ≠ '@')).reverse
  if host.length = authority.length then (none, host)
  else (some (authority.take (authority.length - host.length - 1)), host)

/-- The text up to the first colon outside of brackets, and the rest. -/
def splitPort (inBrackets : Bool) : List Char → List Char × List Char
  | [] => ([], [])
  | c :: cs =>
    if c = ':' && !inBrackets then ([], c :: cs)
    else
      let inBrackets := if c = '[' then true else if c = ']' then false else inBrackets
      let (host, rest) := splitPort inBrackets cs
      (c :: host, rest)

/-- Reads a port in front of the rest of a URL: digits that write a number below 2^16, or none. -/
def readPort (text : List Char) : Except UrlDefect (List Char) :=
  let digits := text.takeWhile Char.isDigit
  let rest := text.dropWhile Char.isDigit
  let small := (Text.numeral? 10 Text.digitValue? digits).any (· < UInt16.size)
  let ended := match rest with
    | [] => true
    | c :: _ => SchemeKind.web.endsAuthority c
  if small && ended then .ok rest else .error .invalidPort

/-- Reads credentials, host and port in front of the rest of a URL. -/
def readAuthority (kind : SchemeKind) (text : List Char) : Except UrlDefect (List Char) := do
  let authority := text.takeWhile fun c => !kind.endsAuthority c
  let rest := text.dropWhile fun c => !kind.endsAuthority c
  let (credentials, hostAndPort) := splitCredentials authority
  if credentials = some [] && hostAndPort.isEmpty && !rest.isEmpty then throw .emptyHost
  let (hostText, port) := splitPort false hostAndPort
  let host ← if kind = .other then Host.ofPlain hostText
    else if hostText.isEmpty then .error .emptyHost
    else Host.ofDomain hostText
  if host = .empty && !port.isEmpty then throw .emptyHost
  let rest ← match port with
    | [] => pure rest
    | _ :: port => readPort (port ++ rest)
  let named := credentials.any fun cs => cs ≠ [] && cs ≠ [':']
  if host = .empty && named then throw .emptyHost
  return rest

/-- The URL with a path, a query or neither behind its authority. Only a web page and a file always
have a path. -/
def ofBehindAuthority (kind : SchemeKind) (text : List Char) : Url :=
  if kind = .other && text.head?.all endsPath then pathless kind text
  else ofPathText kind (dropSlash kind text)

/-- Reads a URL from its authority on. -/
def ofAuthority (kind : SchemeKind) (text : List Char) : Except UrlDefect Url :=
  (readAuthority kind text).map (ofBehindAuthority kind)

/-- Reads a URL without authority on a web page at the root of its host. -/
def ofRelative (text : List Char) : Except UrlDefect Url :=
  let slashes := text.takeWhile SchemeKind.web.isSlash
  if slashes.length < 2 then .ok (ofPathText .web (dropSlash .web text))
  else
    match text with
    | '/' :: '/' :: rest => ofAuthority .web rest
    | _ => ofAuthority .web (text.dropWhile SchemeKind.web.isSlash)

/-- Reads what follows the scheme of a file. Without a host the slash in front of the path counts as
an empty segment, which is dropped at the end. -/
def ofFile (text : List Char) : Except UrlDefect Url :=
  match text with
  | c :: d :: rest =>
    if SchemeKind.file.isSlash c && SchemeKind.file.isSlash d then
      let hostText := rest.takeWhile fun c => !SchemeKind.file.endsAuthority c
      let behind := rest.dropWhile fun c => !SchemeKind.file.endsAuthority c
      if Path.isDriveLetter hostText then .ok (ofPathText .file rest)
      else if hostText.isEmpty then .ok (ofPathText .file behind)
      else do
        let host ← Host.ofDomain hostText
        if host = .name "localhost".toList then return ofPathText .file behind
        else return ofPathText .file (dropSlash .file behind)
    else .ok (ofPathText .file (dropSlash .file text))
  | text => .ok (ofPathText .file (dropSlash .file text))

/-- Reads what follows a scheme about which nothing is known. -/
def ofOther (text : List Char) : Except UrlDefect Url :=
  match text with
  | '/' :: '/' :: rest => ofAuthority .other rest
  | '/' :: rest => .ok (ofPathText .other rest)
  | text => .ok (pathless .other text)

/-- Reads a URL relative to `http://localhost/`. -/
def parse (text : List Char) : Except UrlDefect Url :=
  let text := clean text
  match readScheme text with
  | none => ofRelative text
  | some (scheme, rest) =>
    match SchemeKind.ofScheme scheme with
    | .file => ofFile rest
    | .other => ofOther rest
    | .web =>
      let slashes := rest.takeWhile SchemeKind.web.isSlash
      if scheme = "http" ∧ slashes.length < 2 then ofRelative rest
      else ofAuthority .web (rest.dropWhile SchemeKind.web.isSlash)

end Url

end Routing
