import Routing.Json
import Routing.Text.Ascii

/-!
# Responses

What a handler answers: a status, headers and a JSON body. Header names are compared without regard
to ASCII case. Headers are kept in order and are no part of the serialized response.
-/

namespace Routing

/-- The answer of a handler. -/
structure Response where
  /-- The status code. -/
  status : UInt16
  /-- The headers in order. -/
  headers : List (String × String)
  /-- The body. -/
  body : Json.Value
  deriving Repr

namespace Response

/-- A response whose body is announced as JSON. -/
def json (status : UInt16) (body : Json.Value) : Response :=
  { status, headers := [("content-type", "application/json")], body }

/-- A successful response. -/
def okJson (body : Json.Value) : Response :=
  json 200 body

/-- A response that reports an error. -/
def error (status : UInt16) (message : String) : Response :=
  json status (.object [("error", .str message)])

/-- The value of the first header with the name. -/
def header? (response : Response) (name : String) : Option String :=
  (response.headers.find? fun header => Text.sameIgnoringCase header.1 name).map (·.2)

/-- The response with the header at the end, in place of all headers with the same name. -/
def setHeader (response : Response) (name value : String) : Response :=
  { response with
    headers :=
      response.headers.filter (fun header => !Text.sameIgnoringCase header.1 name) ++
        [(name, value)] }

/-- The text of the response: status and body, without the headers. -/
def serialize (response : Response) : String :=
  Json.render (.obj [("status", .int response.status.toNat), ("body", response.body)])

end Response

end Routing
