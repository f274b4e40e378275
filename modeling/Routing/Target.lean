import Routing.Url.Basic

/-!
# Request targets

The target of a request is a path with an optional query, or a whole URL. Either is read as a URL,
so that dot segments and letter case of schemes are treated alike. A target that begins with a
slash is always a path, even if it begins with two.
-/

namespace Routing

/-- Where a request goes. -/
structure Target where
  /-- The path; it begins with a slash. -/
  path : String
  /-- The query as it is written. -/
  query : Option String
  deriving Repr, DecidableEq

namespace Target

/-- The URL for a target. -/
def url (target : String) : Except UrlDefect Url :=
  if target.toList.head? = some '/' then Url.parse ("http://localhost".toList ++ target.toList)
  else Url.parse target.toList

/-- Reads the target of a request. -/
def ofText (target : String) : Except Error Target :=
  match url target with
  | .error defect => .error (.invalidRequest (.badTarget target defect))
  | .ok { path := none, .. } => .error (.invalidRequest (.rootlessTarget target))
  | .ok { path := some path, query } =>
    .ok { path := String.ofList path, query := query.map String.ofList }

end Target

end Routing
