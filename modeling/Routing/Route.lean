import Routing.Handler
import Routing.Template.Pattern
import Routing.Text.Quoted

/-!
# Routes

A route binds a template and a method to a handler. The compiled pattern of a route always belongs
to its template: it is set together with it.
-/

namespace Routing

/-- A route. -/
structure Route (σ : Type) where
  /-- The template. -/
  url : String
  /-- The template, compiled. -/
  pattern : Pattern
  /-- The method. -/
  method : Method
  /-- The handler. -/
  handler : Handler σ
  /-- The name of the route, if it has one. -/
  name : Option String

namespace Route

variable {σ : Type}

/-- The template of a route for which none is given. -/
def defaultUrl : String := "/"

/-- Compiles the template of a route. -/
def compileUrl (url : String) : Except Error Pattern :=
  match Pattern.compile url with
  | .ok pattern => .ok pattern
  | .error defect => .error (.malformedTemplate url defect)

/-- A route without a name. A defect of the template comes before one of the method. -/
def create (url : Option String) (handler : Handler σ) (method : Option String) :
    Except Error (Route σ) := do
  let url := url.getD defaultUrl
  let pattern ← compileUrl url
  let method ← Method.parse method
  return { url, pattern, method, handler, name := none }

/-- The route under a name, or without one. -/
def named (route : Route σ) (name : Option String) : Route σ :=
  { route with name }

/-- The route with another template. -/
def setUrl (route : Route σ) (url : Option String) : Except Error (Route σ) := do
  let url := url.getD defaultUrl
  let pattern ← compileUrl url
  return { route with url, pattern }

/-- The route with another method. -/
def setMethod (route : Route σ) (method : Option String) : Except Error (Route σ) := do
  let method ← Method.parse method
  return { route with method }

/-- The route with another handler. -/
def setHandler (route : Route σ) (handler : Handler σ) : Route σ :=
  { route with handler }

/-- Calls the handler of the route; its breakdown is an error. -/
def dispatch (route : Route σ) (request : Request) (state : σ) : Except Error Response × σ :=
  let (outcome, state) := route.handler request state
  (outcome.mapError fun breakdown => .notInvocable route.url breakdown.reason, state)

/-- The route as it is shown to a developer. -/
def describe (route : Route σ) : String :=
  let name := match route.name with
    | none => "None"
    | some name => "Some(" ++ Text.quoted name ++ ")"
  "Route \x7b url: " ++ Text.quoted route.url ++ ", method: " ++ route.method.name ++
    ", regex: " ++ Text.quoted route.pattern.regex.text ++ ", name: " ++ name ++ ", .. \x7d"

end Route

end Routing
