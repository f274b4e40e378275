import Routing.Route

/-!
# Route tables

Routes in the order of their registration, which is the order of their priority: the first route
that matches wins, whatever follows. A search may be restricted to the routes that meet a criterion,
which is asked about a route before its pattern is tried.
-/

namespace Routing

/-- A route that matches a path, with the values it captures. -/
structure Hit (σ : Type) where
  /-- The route. -/
  route : Route σ
  /-- The values of the named placeholders that take part, in order. -/
  captures : List (String × String)

/-- The route as a hit, if it matches the path. -/
def Route.hit? {σ : Type} (route : Route σ) (path : String) : Option (Hit σ) :=
  (route.pattern.captures path).map fun captures => { route, captures }

/-- A criterion for routes. It may use and change a state of its own. -/
abbrev Criterion (σ τ : Type) := Route σ → τ → Bool × τ

/-- A state of a criterion together with the routes it has been asked about so far. -/
structure Inquiry (σ τ : Type) where
  /-- The state. -/
  state : τ
  /-- The routes, in the order of the questions. -/
  asked : List (Route σ)

namespace Criterion

variable {σ τ : Type}

/-- A property of routes as a criterion that has no state. -/
def ofProperty (accept : Route σ → Bool) : Criterion σ Unit :=
  fun route _ => (accept route, ())

/-- The criterion, keeping a list of the routes it is asked about. -/
def journaled (accept : Criterion σ τ) : Criterion σ (Inquiry σ τ) :=
  fun route inquiry =>
    ((accept route inquiry.state).1,
      { state := (accept route inquiry.state).2
        asked := inquiry.asked ++ [route] })

end Criterion

/-- The result of a search in a table for a route with a property. -/
structure Search (σ : Type) where
  /-- The route found. -/
  hit : Option (Hit σ)
  /-- The routes about which it was asked whether they have the property, in order. -/
  asked : List (Route σ)

/-- Routes in order of priority. -/
structure Table (σ : Type) where
  /-- The routes. -/
  routes : List (Route σ)

namespace Table

variable {σ τ : Type}

/-- The table without routes. -/
def empty : Table σ := ⟨[]⟩

/-- The table with one more route, of the lowest priority. -/
def push (table : Table σ) (route : Route σ) : Table σ :=
  ⟨table.routes ++ [route]⟩

/-- The number of routes. -/
def size (table : Table σ) : Nat :=
  table.routes.length

/-- Whether there are no routes. -/
def isEmpty (table : Table σ) : Bool :=
  table.routes.isEmpty

/-- Searches the routes in order for one that meets the criterion and matches the path. -/
def searchRoutes (accept : Criterion σ τ) (path : String) :
    List (Route σ) → τ → Option (Hit σ) × τ
  | [], state => (none, state)
  | route :: routes, state =>
    let (accepted, state) := accept route state
    match if accepted then route.hit? path else none with
    | some hit => (some hit, state)
    | none => searchRoutes accept path routes state

/-- The first route that meets the criterion and matches the path, and the state of the criterion
after the search. -/
def firstMatch? (table : Table σ) (path : String) (accept : Criterion σ τ) (state : τ) :
    Option (Hit σ) × τ :=
  searchRoutes accept path table.routes state

/-- Searches for the first route that has the property and matches the path, and tells which routes
the search has asked about. -/
def search (table : Table σ) (path : String) (accept : Route σ → Bool) : Search σ :=
  let found := table.firstMatch? path (Criterion.ofProperty accept).journaled ⟨(), []⟩
  { hit := found.1, asked := found.2.asked }

/-- The first route with the name. -/
def byName? (table : Table σ) (name : String) : Option (Route σ) :=
  table.routes.find? fun route => route.name = some name

@[simp] theorem routes_push (table : Table σ) (route : Route σ) :
    (table.push route).routes = table.routes ++ [route] := rfl

section Search

variable {path : String} {route : Route σ}

/-- A route that answers ends the search. -/
theorem searchRoutes_cons_of_some (accept : Criterion σ τ) (routes : List (Route σ)) (state : τ)
    {hit : Hit σ} (h : (if (accept route state).1 then route.hit? path else none) = some hit) :
    searchRoutes accept path (route :: routes) state = (some hit, (accept route state).2) := by
  simp only [searchRoutes, h]

/-- A route that does not answer is asked about and passed over. -/
theorem searchRoutes_cons_of_none (accept : Criterion σ τ) (routes : List (Route σ)) (state : τ)
    (h : (if (accept route state).1 then route.hit? path else none) = none) :
    searchRoutes accept path (route :: routes) state =
      searchRoutes accept path routes (accept route state).2 := by
  simp only [searchRoutes, h]

/-- Keeping a list of the questions changes neither what is found nor the state. -/
theorem searchRoutes_journaled (accept : Criterion σ τ) (path : String) (routes : List (Route σ))
    (inquiry : Inquiry σ τ) :
    (searchRoutes accept.journaled path routes inquiry).1 =
        (searchRoutes accept path routes inquiry.state).1 ∧
      (searchRoutes accept.journaled path routes inquiry).2.state =
        (searchRoutes accept path routes inquiry.state).2 := by
  induction routes generalizing inquiry with
  | nil => exact ⟨rfl, rfl⟩
  | cons route routes ih =>
    cases h : (if (accept route inquiry.state).1 then route.hit? path else none) with
    | none =>
      rw [searchRoutes_cons_of_none accept.journaled routes inquiry h,
        searchRoutes_cons_of_none accept routes inquiry.state h]
      exact ih (accept.journaled route inquiry).2
    | some hit =>
      rw [searchRoutes_cons_of_some accept.journaled routes inquiry h,
        searchRoutes_cons_of_some accept routes inquiry.state h]
      exact ⟨rfl, rfl⟩

/-- A property is a criterion that finds the first route that has it and matches the path. -/
theorem searchRoutes_ofProperty (accept : Route σ → Bool) (path : String)
    (routes : List (Route σ)) :
    (searchRoutes (.ofProperty accept) path routes ()).1 =
      routes.findSome? fun route => if accept route then route.hit? path else none := by
  induction routes with
  | nil => rfl
  | cons route routes ih =>
    rw [List.findSome?_cons]
    cases h : (if accept route then route.hit? path else none) with
    | none => rw [searchRoutes_cons_of_none _ routes () h, ih]
    | some hit => rw [searchRoutes_cons_of_some _ routes () h]

/-- A search with a property finds what a search without the list of questions finds. -/
theorem hit_search (table : Table σ) (path : String) (accept : Route σ → Bool) :
    (table.search path accept).hit = (table.firstMatch? path (.ofProperty accept) ()).1 :=
  (searchRoutes_journaled (.ofProperty accept) path table.routes ⟨(), []⟩).1

end Search

end Table

end Routing
