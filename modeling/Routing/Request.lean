import Routing.Method
import Routing.Params

/-!
# Requests

A request in normal form: the method is trimmed and in upper case, the path has no slash at its end
unless it is the root. Requests are built once and then only gain parameters.
-/

namespace Routing

/-- A request as the router sees it. -/
structure Request where
  /-- The method in upper case. -/
  method : String
  /-- The path. -/
  path : String
  /-- The parameters of query, body and path. -/
  params : Params
  deriving Repr, DecidableEq

namespace Request

/-- The path without slashes at its end; nothing left is the root. -/
def normalizePath (path : String) : String :=
  match Text.dropEndWhile (· = '/') path.toList with
  | [] => "/"
  | cs => String.ofList cs

/-- A request without parameters; its method must not be blank. -/
def ofParts (method path : String) : Except Error Request :=
  if Text.trim method = "" then .error (.invalidRequest .blankMethod)
  else .ok { method := Method.normalize method, path := normalizePath path, params := [] }

/-- The value of a parameter. -/
def param? (request : Request) (key : String) : Option String :=
  request.params.get? key

/-- The request with a parameter set, whether or not it was there. -/
def withParam (request : Request) (key value : String) : Request :=
  { request with params := request.params.set key value }

/-- The request with several parameters set, one after the other. -/
def withParams (request : Request) (entries : List (String × String)) : Request :=
  { request with params := request.params.setAll entries }

/-- The request with a parameter added. Unless `force` is given, it must not be there already. -/
def addParam (request : Request) (key value : String) (force : Bool) : Except Error Request :=
  if !force && (request.param? key).isSome then .error (.duplicateParam key)
  else .ok (request.withParam key value)

@[simp] theorem withParams_cons (request : Request) (entry : String × String)
    (entries : List (String × String)) :
    request.withParams (entry :: entries) =
      (request.withParam entry.1 entry.2).withParams entries := rfl

/-- Adding by force always succeeds. -/
@[simp] theorem addParam_force (request : Request) (key value : String) :
    request.addParam key value true = .ok (request.withParam key value) := rfl

end Request

end Routing
