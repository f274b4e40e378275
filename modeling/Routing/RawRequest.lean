import Routing.Form
import Routing.Request
import Routing.Target

/-!
# Raw requests

A request as it comes in: a method, a target and possibly the body of a form. Its parameters are the
pairs of the query and then those of the body. Forms can only be sent with two methods, so a field
of the body may name another one.
-/

namespace Routing

/-- A request as it comes in. -/
structure RawRequest where
  /-- The method. -/
  method : String
  /-- The target. -/
  target : String
  /-- The body of a form. -/
  form : Option String
  deriving Repr, DecidableEq

namespace RawRequest

/-- The field of a form body that names the method. -/
def methodField : String := "_method"

/-- The pairs of the form body. -/
def bodyPairs (raw : RawRequest) : List (String × String) :=
  (raw.form.map Form.pairs).getD []

/-- The method that counts: the last one that the form body names, or else that of the request. -/
def effectiveMethod (raw : RawRequest) : String :=
  ((raw.bodyPairs.reverse.find? fun pair => pair.1 = methodField).map (·.2)).getD raw.method

/-- The request. A defect of the target comes before one of the method. -/
def toRequest (raw : RawRequest) : Except Error Request := do
  let target ← Target.ofText raw.target
  let queryPairs := (target.query.map Form.pairs).getD []
  let request ← Request.ofParts raw.effectiveMethod target.path
  return request.withParams (queryPairs ++ raw.bodyPairs)

end RawRequest

end Routing
