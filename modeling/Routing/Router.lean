import Routing.Config
import Routing.Registry
import Routing.Table

/-!
# The router

A router is a table of routes with settings. For a request it selects the first route that matches
the path (and, if the settings say so, has the method of the request), writes the values captured
from the path into the parameters of the request and calls the handler of the route once.
-/

namespace Routing

/-- A router. -/
structure Router (σ : Type) where
  /-- The routes. -/
  table : Table σ
  /-- The settings. -/
  config : Config

/-- The answer to a request for which a route was selected. -/
structure RouteMatch (σ : Type) where
  /-- The route. -/
  route : Route σ
  /-- The values captured from the path. -/
  pathParams : Params
  /-- What the handler answered. -/
  response : Response

/-- The value captured under a name. -/
def RouteMatch.pathParam? {σ : Type} (answer : RouteMatch σ) (name : String) : Option String :=
  answer.pathParams.get? name

/-- What becomes of a request: the answer, if a route was selected, and the request with the values
captured from its path. -/
structure Handled (σ : Type) where
  /-- The answer, or the error of the handler; there is none without a matching route. -/
  result : Except Error (Option (RouteMatch σ))
  /-- The request afterwards. -/
  request : Request
  /-- The state of the handlers afterwards. -/
  state : σ

namespace Router

variable {σ : Type}

/-- A router without routes. -/
def create (config : Config) : Router σ :=
  { table := .empty, config }

/-- A router with the given routes and the default settings. -/
def ofRoutes (routes : List (Route σ)) : Router σ :=
  { table := ⟨routes⟩, config := {} }

/-- The router for a file of declarations. Such files are not read; the router has no routes. -/
def ofFile (_path : String) : Router σ :=
  create {}

/-- The router with one more route, of the lowest priority. -/
def addRoute (router : Router σ) (url : String) (handler : Handler σ) (method name : Option String) :
    Except Error (Router σ) := do
  let route ← Route.create (some url) handler method
  return { router with table := router.table.push (route.named name) }

/-- The router with one more route, whose handler is given by its name. -/
def addNamedRoute (router : Router σ) (url handlerName : String) (method name : Option String)
    (registry : Registry σ) : Except Error (Router σ) :=
  match registry.get? handlerName with
  | none => .error (.invalidHandler handlerName)
  | some handler => router.addRoute url handler method name

/-- The routes in order of priority. -/
def routes (router : Router σ) : List (Route σ) :=
  router.table.routes

/-- The first route with the name. -/
def routeByName? (router : Router σ) (name : String) : Option (Route σ) :=
  router.table.byName? name

/-- Whether a route may answer a request, its path aside. -/
def admits (router : Router σ) (request : Request) (route : Route σ) : Bool :=
  !router.config.enforceMethod || route.method.name = request.method

/-- The route that answers a request, with the values it captures. -/
def select? (router : Router σ) (request : Request) : Option (Hit σ) :=
  (router.table.firstMatch? request.path (.ofProperty (router.admits request)) ()).1

/-- Answers a request: selects a route, adds the captured values and calls the handler. -/
def handle (router : Router σ) (request : Request) (state : σ) : Handled σ :=
  match router.select? request with
  | none => { result := .ok none, request, state }
  | some { route, captures } =>
    let pathParams := Params.setAll [] captures
    let request := request.withParams pathParams
    let (response, state) := route.dispatch request state
    { result := response.map fun response => some { route, pathParams, response }
      request
      state }

/-- Answers a request that its source may fail to give. -/
def run (router : Router σ) (source : Except Error Request) (state : σ) :
    Except Error (Option (RouteMatch σ)) × σ :=
  match source with
  | .error error => (.error error, state)
  | .ok request =>
    let handled := router.handle request state
    (handled.result, handled.state)

end Router

end Routing
