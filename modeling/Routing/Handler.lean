import Routing.Breadcrumb
import Routing.Request
import Routing.Response

/-!
# Handlers

A handler answers a request. It may use and change a state that all handlers share, and it may
break down instead of answering. `StockHandler` is a small collection of ready-made handlers over a
counter of calls.
-/

namespace Routing

/-- The breakdown of a handler, with the text it leaves behind, if any. -/
structure Breakdown where
  /-- The text. -/
  text : Option String
  deriving Repr, DecidableEq

namespace Breakdown

/-- What is reported of the breakdown. -/
def reason (breakdown : Breakdown) : String :=
  breakdown.text.getD "handler panicked"

end Breakdown

/-- How a handler ends. -/
abbrev Outcome := Except Breakdown Response

/-- A handler over a shared state. -/
abbrev Handler (σ : Type) := Request → σ → Outcome × σ

/-- A request as a JSON value. -/
def Request.toJson (request : Request) : Json.Value :=
  .object [
    ("method", .str request.method),
    ("path", .str request.path),
    ("params", .arr (request.params.map fun entry => .arr [.str entry.1, .str entry.2]))]

/-- An entry of a trail as a JSON value. -/
def Breadcrumb.toJson (crumb : Breadcrumb) : Json.Value :=
  .object [("url", .str crumb.url), ("text", .str crumb.text)]

/-- A ready-made handler. -/
inductive StockHandler where
  /-- Answers with the request. -/
  | echo
  /-- Always gives the same answer. -/
  | const (status : UInt16) (body : Json.Value)
  /-- Always reports the same error. -/
  | error (status : UInt16) (message : String)
  /-- Answers with the value of a parameter. -/
  | param (key : String)
  /-- Answers with the number of calls so far, this one included. -/
  | count
  /-- Answers with the trail to the path of the request. -/
  | crumbs (home : String)
  /-- Breaks down. -/
  | breakdown (text : Option String)
  deriving Repr

namespace StockHandler

/-- How the handler ends for a request, when it is the call with the given number. -/
def outcome (handler : StockHandler) (request : Request) (call : Nat) : Outcome :=
  match handler with
  | echo => .ok (.okJson request.toJson)
  | const status body => .ok (.json status body)
  | error status message => .ok (.error status message)
  | param key =>
    .ok (.okJson (.object [("value", ((request.param? key).map .str).getD .null)]))
  | count => .ok (.okJson (.int call))
  | crumbs home => .ok (.okJson (.arr ((Breadcrumb.trail request.path home).map (·.toJson))))
  | breakdown text => .error ⟨text⟩

/-- The handler over a counter, which every call increments first. -/
def toHandler (handler : StockHandler) : Handler Nat := fun request calls =>
  (handler.outcome request (calls + 1), calls + 1)

end StockHandler

end Routing
