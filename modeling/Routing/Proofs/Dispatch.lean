import Routing.Router
import Mathlib.Data.List.Basic
import Mathlib.Tactic.Common

/-!
# Proofs: first match and dispatch

Of the routes that may answer a request the first one is selected, whatever the history of the
router is, and its handler is called once and no other one. To speak of calls, the handlers of a
router are made to keep a journal of them, and to speak of the questions that a search asks, so is the
criterion of the search; this changes nothing else.
-/

namespace Routing

variable {σ : Type}

/-! ## The first of a list -/

/-- At index `i` the list holds `x`, which is the first member with the property. -/
structure IsFirst {α : Type} (p : α → Prop) (xs : List α) (i : Nat) (x : α) : Prop where
  /-- The member at the index. -/
  getElem? : xs[i]? = some x
  /-- It has the property. -/
  holds : p x
  /-- No earlier member has it. -/
  earlier : ∀ j < i, ∀ y, xs[j]? = some y → ¬ p y

section First

variable {α : Type} {p : α → Prop} {xs : List α} {x y : α} {i j : Nat}

theorem isFirst_cons_zero : IsFirst p (x :: xs) 0 y ↔ x = y ∧ p x := by
  constructor
  · rintro ⟨hget, hp, -⟩
    obtain rfl : x = y := by simpa using hget
    exact ⟨rfl, hp⟩
  · rintro ⟨rfl, hp⟩
    exact ⟨rfl, hp, fun j hj => absurd hj (Nat.not_lt_zero j)⟩

theorem isFirst_cons_succ : IsFirst p (x :: xs) (i + 1) y ↔ ¬ p x ∧ IsFirst p xs i y := by
  constructor
  · rintro ⟨hget, hp, hearlier⟩
    refine ⟨hearlier 0 (Nat.succ_pos i) x rfl, hget, hp, fun j hj z hz => ?_⟩
    exact hearlier (j + 1) (Nat.succ_lt_succ hj) z hz
  · rintro ⟨hx, hget, hp, hearlier⟩
    refine ⟨hget, hp, fun j hj z hz => ?_⟩
    cases j with
    | zero =>
      obtain rfl : x = z := by simpa using hz
      exact hx
    | succ j => exact hearlier j (Nat.lt_of_succ_lt_succ hj) z hz

/-- There is a first member with the property unless there is none at all. -/
theorem exists_isFirst_or (p : α → Prop) (xs : List α) :
    (∃ i x, IsFirst p xs i x) ∨ ∀ x ∈ xs, ¬ p x := by
  induction xs with
  | nil => exact Or.inr (by simp)
  | cons x xs ih =>
    by_cases hx : p x
    · exact Or.inl ⟨0, x, isFirst_cons_zero.mpr ⟨rfl, hx⟩⟩
    · rcases ih with ⟨i, y, h⟩ | h
      · exact Or.inl ⟨i + 1, y, isFirst_cons_succ.mpr ⟨hx, h⟩⟩
      · exact Or.inr (by simpa [hx] using h)

/-- What is first stays first when every member is changed into one that has the property if the
member had it. -/
theorem IsFirst.mapIdx {β : Type} {q : β → Prop} {f : Nat → α → β}
    (hf : ∀ i x, q (f i x) ↔ p x) (h : IsFirst p xs i x) : IsFirst q (xs.mapIdx f) i (f i x) where
  getElem? := by rw [List.getElem?_mapIdx, h.getElem?, Option.map_some]
  holds := (hf i x).mpr h.holds
  earlier j hj y hy := by
    rw [List.getElem?_mapIdx, Option.map_eq_some_iff] at hy
    obtain ⟨plain, hplain, rfl⟩ := hy
    exact mt (hf j plain).mp (h.earlier j hj plain hplain)

theorem forall_not_mapIdx {β : Type} {q : β → Prop} {f : Nat → α → β}
    (hf : ∀ i x, q (f i x) ↔ p x) (h : ∀ x ∈ xs, ¬ p x) : ∀ y ∈ xs.mapIdx f, ¬ q y := by
  intro y hy
  obtain ⟨i, hi, rfl⟩ := List.mem_mapIdx.mp hy
  exact mt (hf i xs[i]).mp (h _ (List.getElem_mem hi))

end First

/-! ## Search -/

namespace Route

variable {accept : Route σ → Bool} {path : String} {route : Route σ}

/-- The route is accepted and matches the path. -/
def Answers (accept : Route σ → Bool) (path : String) (route : Route σ) : Prop :=
  accept route = true ∧ route.pattern.isMatch path = true

theorem exists_captures (h : route.pattern.isMatch path = true) :
    ∃ captures, route.pattern.captures path = some captures :=
  Option.isSome_iff_exists.mp ((Pattern.isSome_captures route.pattern path).trans h)

/-- A route that answers is found with what it captures. -/
theorem hit?_of_answers (h : route.Answers accept path) :
    ∃ captures, route.pattern.captures path = some captures ∧
      (if accept route then route.hit? path else none) = some { route, captures } := by
  obtain ⟨captures, hcaptures⟩ := exists_captures h.2
  exact ⟨captures, hcaptures, by rw [if_pos h.1, hit?, hcaptures, Option.map_some]⟩

theorem hit?_of_not_answers (h : ¬ route.Answers accept path) :
    (if accept route then route.hit? path else none) = none := by
  split_ifs with haccept
  · rw [hit?, Option.map_eq_none_iff, ← Option.not_isSome_iff_eq_none, Pattern.isSome_captures]
    exact fun hmatch => h ⟨haccept, hmatch⟩
  · rfl

end Route

namespace Criterion

variable {τ : Type}

/-- The routes, each with the state in which the criterion is asked about it if it is asked about all
of them in order. -/
def trials (accept : Criterion σ τ) : τ → List (Route σ) → List (τ × Route σ)
  | _, [] => []
  | state, route :: routes => (state, route) :: accept.trials (accept route state).2 routes

/-- In its state the criterion accepts the route, and the route matches the path. -/
def Passes (accept : Criterion σ τ) (path : String) (trial : τ × Route σ) : Prop :=
  trial.2.Answers (fun route => (accept route trial.1).1) path

/-- A property is put to all routes in the same state. -/
theorem trials_ofProperty (accept : Route σ → Bool) (routes : List (Route σ)) :
    (ofProperty accept).trials () routes = routes.mapIdx fun _ route => ((), route) := by
  induction routes with
  | nil => rfl
  | cons route routes ih => rw [trials, List.mapIdx_cons, ← ih]

end Criterion

namespace Table

section Search

variable {τ : Type} {accept : Criterion σ τ} {path : String} {routes : List (Route σ)} {i : Nat}

/-- The search finds the first route that passes, and asks about the routes up to it, once each. -/
theorem searchRoutes_of_isFirst (inquiry : Inquiry σ τ) {trial : τ × Route σ}
    (h : IsFirst (accept.Passes path) (accept.trials inquiry.state routes) i trial) :
    ∃ captures, trial.2.pattern.captures path = some captures ∧
      searchRoutes accept.journaled path routes inquiry =
        (some { route := trial.2, captures },
          { state := (accept trial.2 trial.1).2, asked := inquiry.asked ++ routes.take (i + 1) }) := by
  induction routes generalizing i inquiry with
  | nil => simpa [Criterion.trials] using h.getElem?
  | cons first routes ih =>
    cases i with
    | zero =>
      obtain ⟨rfl, hpasses⟩ := isFirst_cons_zero.mp h
      obtain ⟨captures, hcaptures, hhit⟩ := Route.hit?_of_answers hpasses
      exact ⟨captures, hcaptures,
        searchRoutes_cons_of_some accept.journaled routes inquiry hhit⟩
    | succ i =>
      obtain ⟨hfirst, hlater⟩ := isFirst_cons_succ.mp h
      obtain ⟨captures, hcaptures, hsearch⟩ := ih (accept.journaled first inquiry).2 hlater
      refine ⟨captures, hcaptures, ?_⟩
      rw [searchRoutes_cons_of_none accept.journaled routes inquiry
        (Route.hit?_of_not_answers hfirst), hsearch]
      simp [Criterion.journaled]

/-- If no route passes, the search asks about all of them, once each, and finds none. -/
theorem searchRoutes_of_forall_not (inquiry : Inquiry σ τ)
    (h : ∀ trial ∈ accept.trials inquiry.state routes, ¬ accept.Passes path trial) :
    (searchRoutes accept.journaled path routes inquiry).1 = none ∧
      (searchRoutes accept.journaled path routes inquiry).2.asked = inquiry.asked ++ routes := by
  induction routes generalizing inquiry with
  | nil => exact ⟨rfl, (List.append_nil _).symm⟩
  | cons first routes ih =>
    obtain ⟨hfirst, hlater⟩ := List.forall_mem_cons.mp h
    obtain ⟨hnone, hasked⟩ := ih (accept.journaled first inquiry).2 hlater
    rw [searchRoutes_cons_of_none accept.journaled routes inquiry
      (Route.hit?_of_not_answers hfirst)]
    exact ⟨hnone, hasked.trans (by simp [Criterion.journaled])⟩

end Search

variable {accept : Route σ → Bool} {path : String} {route : Route σ} {i : Nat}

/-- With a property, the search finds the first route that answers, and asks about the routes up to
it. -/
theorem search_of_isFirst (table : Table σ)
    (h : IsFirst (Route.Answers accept path) table.routes i route) :
    ∃ captures, route.pattern.captures path = some captures ∧
      table.search path accept =
        { hit := some { route, captures }, asked := table.routes.take (i + 1) } := by
  have htrials : IsFirst ((Criterion.ofProperty accept).Passes path)
      ((Criterion.ofProperty accept).trials () table.routes) i ((), route) := by
    rw [Criterion.trials_ofProperty]
    exact h.mapIdx fun _ _ => Iff.rfl
  obtain ⟨captures, hcaptures, hsearch⟩ := searchRoutes_of_isFirst ⟨(), []⟩ htrials
  refine ⟨captures, hcaptures, ?_⟩
  rw [search, firstMatch?, hsearch]
  rfl

/-- If no route answers, the search asks about all of them and finds none. -/
theorem search_of_forall_not (table : Table σ)
    (h : ∀ route ∈ table.routes, ¬ route.Answers accept path) :
    table.search path accept = { hit := none, asked := table.routes } := by
  have htrials : ∀ trial ∈ (Criterion.ofProperty accept).trials () table.routes,
      ¬ (Criterion.ofProperty accept).Passes path trial := by
    rw [Criterion.trials_ofProperty]
    exact forall_not_mapIdx (fun _ _ => Iff.rfl) h
  obtain ⟨hnone, hasked⟩ := searchRoutes_of_forall_not ⟨(), []⟩ htrials
  rw [search, firstMatch?, hnone, hasked]
  rfl

end Table

/-! ## Journals -/

/-- A state of handlers together with the calls of handlers so far. -/
structure Journal (σ : Type) where
  /-- The state. -/
  state : σ
  /-- The calls: the number of the route and the request with which its handler was called. -/
  calls : List (Nat × Request)

/-- The handler of the route with a number, keeping a journal. -/
def Handler.journaled (index : Nat) (handler : Handler σ) : Handler (Journal σ) :=
  fun request journal =>
    ((handler request journal.state).1,
      { state := (handler request journal.state).2
        calls := journal.calls ++ [(index, request)] })

/-- The route with a number, keeping a journal. -/
def Route.journaled (index : Nat) (route : Route σ) : Route (Journal σ) where
  url := route.url
  pattern := route.pattern
  method := route.method
  handler := Handler.journaled index route.handler
  name := route.name

/-- The router, keeping a journal. -/
def Router.journaled (router : Router σ) : Router (Journal σ) where
  table := ⟨router.routes.mapIdx Route.journaled⟩
  config := router.config

/-- What an answer tells, the handler of the route aside. -/
structure Report where
  /-- The template of the route. -/
  url : String
  /-- The template, compiled. -/
  pattern : Pattern
  /-- The method of the route. -/
  method : Method
  /-- The name of the route. -/
  name : Option String
  /-- The values captured from the path. -/
  pathParams : Params
  /-- What the handler answered. -/
  response : Response

/-- What is told of a request. -/
def Handled.report (handled : Handled σ) : Except Error (Option Report) :=
  handled.result.map (Option.map fun answer =>
    { url := answer.route.url, pattern := answer.route.pattern, method := answer.route.method
      name := answer.route.name, pathParams := answer.pathParams, response := answer.response })

/-- Whether a result is an answer or the breakdown of a handler. -/
def isDispatched {α : Type} : Except Error (Option α) → Bool
  | .ok answer => answer.isSome
  | .error (.notInvocable _ _) => true
  | .error _ => false

/-- The request with the values that a route has captured from its path. -/
def Request.enriched (request : Request) (captures : List (String × String)) : Request :=
  request.withParams (Params.setAll [] captures)

/-! ## One request -/

namespace Router

variable {router : Router σ} {request : Request} {route : Route σ} {i : Nat}

/-- The route may answer the request: its method is right, if methods matter, and its pattern
matches the path. -/
def Answers (router : Router σ) (request : Request) (route : Route σ) : Prop :=
  (router.config.enforceMethod = true → route.method.name = request.method) ∧
    route.pattern.isMatch request.path = true

theorem answers_iff : router.Answers request route ↔
    route.Answers (router.admits request) request.path := by
  unfold Answers Route.Answers admits
  cases router.config.enforceMethod <;> simp

theorem answers_eq : router.Answers request = Route.Answers (router.admits request) request.path :=
  funext fun _ => propext answers_iff

theorem answers_journaled :
    router.journaled.Answers request (route.journaled i) ↔ router.Answers request route :=
  Iff.rfl

theorem isFirst_journaled (h : IsFirst (router.Answers request) router.routes i route) :
    IsFirst (router.journaled.Answers request) router.journaled.routes i (route.journaled i) :=
  h.mapIdx fun _ _ => answers_journaled

theorem forall_not_journaled (h : ∀ route ∈ router.routes, ¬ router.Answers request route) :
    ∀ route ∈ router.journaled.routes, ¬ router.journaled.Answers request route :=
  forall_not_mapIdx (fun _ _ => answers_journaled) h

theorem captures_of_isFirst (h : IsFirst (router.Answers request) router.routes i route) :
    ∃ captures, route.pattern.captures request.path = some captures :=
  Route.exists_captures h.holds.2

theorem select?_eq_hit (router : Router σ) (request : Request) :
    router.select? request = (router.table.search request.path (router.admits request)).hit :=
  (Table.hit_search _ _ _).symm

/-- What is selected is the first hit of a route that the router admits. -/
theorem select?_eq_findSome? (router : Router σ) (request : Request) :
    router.select? request = router.routes.findSome? fun route =>
      if router.admits request route then route.hit? request.path else none :=
  Table.searchRoutes_ofProperty _ _ _

/-- The first route that may answer a request answers it. -/
theorem handle_of_isFirst (h : IsFirst (router.Answers request) router.routes i route)
    {captures : List (String × String)}
    (hcaptures : route.pattern.captures request.path = some captures) (state : σ) :
    router.handle request state =
      { result := (route.dispatch (request.enriched captures) state).1.map fun response =>
          some { route, pathParams := Params.setAll [] captures, response }
        request := request.enriched captures
        state := (route.dispatch (request.enriched captures) state).2 } := by
  rw [answers_eq] at h
  obtain ⟨captures', hcaptures', hsearch⟩ := router.table.search_of_isFirst h
  obtain rfl := Option.some.inj (hcaptures.symm.trans hcaptures')
  rw [handle, select?_eq_hit, hsearch]
  rfl

theorem result_handle_of_ok (h : IsFirst (router.Answers request) router.routes i route)
    {captures : List (String × String)} (hcaptures : route.pattern.captures request.path = some captures)
    {state : σ} {response : Response}
    (houtcome : (route.handler (request.enriched captures) state).1 = .ok response) :
    (router.handle request state).result =
      .ok (some { route, pathParams := Params.setAll [] captures, response }) := by
  rw [handle_of_isFirst h hcaptures]
  simp only [Route.dispatch, houtcome]
  rfl

theorem result_handle_of_error (h : IsFirst (router.Answers request) router.routes i route)
    {captures : List (String × String)} (hcaptures : route.pattern.captures request.path = some captures)
    {state : σ} {breakdown : Breakdown}
    (houtcome : (route.handler (request.enriched captures) state).1 = .error breakdown) :
    (router.handle request state).result = .error (.notInvocable route.url breakdown.reason) := by
  rw [handle_of_isFirst h hcaptures]
  simp only [Route.dispatch, houtcome]
  rfl

/-- A request that no route may answer is left alone. -/
theorem handle_of_forall_not (h : ∀ route ∈ router.routes, ¬ router.Answers request route)
    (state : σ) : router.handle request state = { result := .ok none, request, state } := by
  have hsearch := router.table.search_of_forall_not fun route hroute =>
    mt answers_iff.mpr (h route hroute)
  rw [handle, select?_eq_hit, hsearch]

/-- Of the journal nothing but the calls can be seen. -/
theorem handle_journaled (router : Router σ) (request : Request) (journal : Journal σ) :
    (router.journaled.handle request journal).report =
        (router.handle request journal.state).report ∧
      (router.journaled.handle request journal).request =
        (router.handle request journal.state).request ∧
      (router.journaled.handle request journal).state.state =
        (router.handle request journal.state).state := by
  rcases exists_isFirst_or (router.Answers request) router.routes with ⟨i, route, h⟩ | h
  · obtain ⟨captures, hcaptures⟩ := captures_of_isFirst h
    rw [handle_of_isFirst h hcaptures, handle_of_isFirst (isFirst_journaled h) hcaptures]
    refine ⟨?_, rfl, rfl⟩
    simp only [Handled.report, Route.dispatch, Route.journaled, Handler.journaled]
    cases (route.handler (request.enriched captures) journal.state).1 <;> rfl
  · rw [handle_of_forall_not h, handle_of_forall_not (forall_not_journaled h)]
    exact ⟨rfl, rfl, rfl⟩

/-- The answer to a request comes from the first route that may answer it, or the handler of that
route breaks down. -/
theorem result_handle_of_isFirst (h : IsFirst (router.Answers request) router.routes i route)
    (state : σ) :
    (∃ answer, (router.handle request state).result = .ok (some answer) ∧ answer.route = route) ∨
      ∃ reason, (router.handle request state).result = .error (.notInvocable route.url reason) := by
  obtain ⟨captures, hcaptures⟩ := captures_of_isFirst h
  cases houtcome : (route.handler (request.enriched captures) state).1 with
  | error breakdown => exact Or.inr ⟨breakdown.reason, result_handle_of_error h hcaptures houtcome⟩
  | ok response => exact Or.inl ⟨_, result_handle_of_ok h hcaptures houtcome, rfl⟩

/-- The first route that may answer a request answers it with its handler. -/
theorem answer_of_isFirst (h : IsFirst (router.Answers request) router.routes i route) (state : σ) :
    let handled := router.handle request state
    handled.state = (route.handler handled.request state).2 ∧
      match (route.handler handled.request state).1 with
      | .ok response => ∃ answer, handled.result = .ok (some answer) ∧
          answer.route = route ∧ answer.response = response
      | .error breakdown => handled.result = .error (.notInvocable route.url breakdown.reason) := by
  intro handled
  obtain ⟨captures, hcaptures⟩ := captures_of_isFirst h
  have hhandled : handled = _ := handle_of_isFirst h hcaptures state
  have hrequest : handled.request = request.enriched captures := congrArg Handled.request hhandled
  rw [hrequest]
  refine ⟨congrArg Handled.state hhandled, ?_⟩
  cases houtcome : (route.handler (request.enriched captures) state).1 with
  | error breakdown => exact result_handle_of_error h hcaptures houtcome
  | ok response => exact ⟨_, result_handle_of_ok h hcaptures houtcome, rfl, rfl⟩

/-- A request is answered, or a handler breaks down over it, exactly if some route may answer it. -/
theorem isDispatched_handle_iff (router : Router σ) (request : Request) (state : σ) :
    isDispatched (router.handle request state).result = true ↔
      ∃ route ∈ router.routes, router.Answers request route := by
  rcases exists_isFirst_or (router.Answers request) router.routes with ⟨i, route, h⟩ | h
  · have hroute : route ∈ router.routes := List.mem_of_getElem? h.getElem?
    refine iff_of_true ?_ ⟨route, hroute, h.holds⟩
    rcases result_handle_of_isFirst h state with ⟨answer, hresult, -⟩ | ⟨reason, hresult⟩
    · rw [hresult]
      rfl
    · rw [hresult]
      rfl
  · rw [handle_of_forall_not h]
    exact iff_of_false (by simp [isDispatched]) (by simpa using h)

/-- The handler of the first route that may answer is called once, with the enriched request. -/
theorem calls_handle_of_isFirst (h : IsFirst (router.Answers request) router.routes i route)
    (journal : Journal σ) :
    (router.journaled.handle request journal).state.calls =
      journal.calls ++ [(i, (router.handle request journal.state).request)] := by
  obtain ⟨captures, hcaptures⟩ := captures_of_isFirst h
  rw [handle_of_isFirst h hcaptures, handle_of_isFirst (isFirst_journaled h) hcaptures]
  rfl

/-- The journal grows by one call for a request that is dispatched and by none for another. -/
theorem length_calls_handle (router : Router σ) (request : Request) (journal : Journal σ) :
    (router.journaled.handle request journal).state.calls.length = journal.calls.length +
      if isDispatched (router.handle request journal.state).result then 1 else 0 := by
  rcases exists_isFirst_or (router.Answers request) router.routes with ⟨i, route, h⟩ | h
  · have hdispatched := (router.isDispatched_handle_iff request journal.state).mpr
      ⟨route, List.mem_of_getElem? h.getElem?, h.holds⟩
    rw [calls_handle_of_isFirst h, hdispatched, List.length_append]
    rfl
  · rw [handle_of_forall_not h, handle_of_forall_not (forall_not_journaled h)]
    rfl

end Router

/-! ## Runs -/

/-- A declaration of a route. -/
inductive Registration (σ : Type) where
  /-- With the handler itself. -/
  | direct (url : String) (handler : Handler σ) (method name : Option String)
  /-- With the name of a handler. -/
  | byName (url handlerName : String) (method name : Option String) (registry : Registry σ)

/-- The route that is declared, if there is nothing wrong with the declaration. -/
def Registration.route? : Registration σ → Option (Route σ)
  | direct url handler method name =>
    (Route.create (some url) handler method).toOption.map (·.named name)
  | byName url handlerName method name registry => (registry.get? handlerName).bind fun handler =>
    (Route.create (some url) handler method).toOption.map (·.named name)

namespace Router

/-- Declares a route. -/
def declare (router : Router σ) : Registration σ → Except Error (Router σ)
  | .direct url handler method name => router.addRoute url handler method name
  | .byName url handlerName method name registry =>
    router.addNamedRoute url handlerName method name registry

/-- The router after several declarations; one that fails leaves the router as it is. -/
def declareAll (router : Router σ) (registrations : List (Registration σ)) : Router σ :=
  registrations.foldl (fun router registration =>
    (router.declare registration).toOption.getD router) router

/-- Answers requests one after the other. -/
def handleAll (router : Router σ) : List Request → σ → List (Handled σ) × σ
  | [], state => ([], state)
  | request :: requests, state =>
    let handled := router.handle request state
    let later := router.handleAll requests handled.state
    (handled :: later.1, later.2)

theorem toOption_addRoute (router : Router σ) (url : String) (handler : Handler σ)
    (method name : Option String) :
    (router.addRoute url handler method name).toOption =
      ((Route.create (some url) handler method).toOption.map (·.named name)).map fun route =>
        { router with table := router.table.push route } := by
  unfold addRoute
  cases Route.create (some url) handler method <;> rfl

theorem toOption_declare (router : Router σ) (registration : Registration σ) :
    (router.declare registration).toOption = registration.route?.map fun route =>
      { router with table := router.table.push route } := by
  cases registration with
  | direct url handler method name => exact router.toOption_addRoute url handler method name
  | byName url handlerName method name registry =>
    rw [declare, addNamedRoute, Registration.route?]
    cases registry.get? handlerName with
    | none => rfl
    | some handler => exact router.toOption_addRoute url handler method name

/-- The routes are those of the successful declarations, in order. -/
theorem routes_declareAll (router : Router σ) (registrations : List (Registration σ)) :
    (router.declareAll registrations).config = router.config ∧
      (router.declareAll registrations).routes =
        router.routes ++ registrations.filterMap Registration.route? := by
  induction registrations generalizing router with
  | nil => exact ⟨rfl, (List.append_nil _).symm⟩
  | cons registration registrations ih =>
    have hcons : router.declareAll (registration :: registrations) =
        ((router.declare registration).toOption.getD router).declareAll registrations := rfl
    rw [hcons, toOption_declare]
    cases hroute : registration.route? with
    | none =>
      rw [List.filterMap_cons_none hroute]
      exact ih router
    | some route =>
      rw [List.filterMap_cons_some hroute]
      obtain ⟨hconfig, hroutes⟩ := ih { router with table := router.table.push route }
      refine ⟨hconfig, hroutes.trans ?_⟩
      show (router.table.push route).routes ++ _ = _
      rw [Table.routes_push, List.append_assoc, List.singleton_append]
      rfl

/-- A journal changes nothing in a whole run. -/
theorem handleAll_journaled (router : Router σ) (requests : List Request) (journal : Journal σ) :
    (router.journaled.handleAll requests journal).1.map Handled.report =
        (router.handleAll requests journal.state).1.map Handled.report ∧
      (router.journaled.handleAll requests journal).2.state =
        (router.handleAll requests journal.state).2 := by
  induction requests generalizing journal with
  | nil => exact ⟨rfl, rfl⟩
  | cons request requests ih =>
    obtain ⟨hreport, -, hstate⟩ := router.handle_journaled request journal
    obtain ⟨hreports, hfinal⟩ := ih (router.journaled.handle request journal).state
    rw [hstate] at hreports hfinal
    simp only [handleAll, List.map_cons]
    exact ⟨by rw [hreport, hreports], hfinal⟩

/-- In a whole run as many handlers are called as requests are dispatched. -/
theorem length_calls_handleAll (router : Router σ) (requests : List Request)
    (journal : Journal σ) :
    (router.journaled.handleAll requests journal).2.calls.length = journal.calls.length +
      (router.handleAll requests journal.state).1.countP fun handled =>
        isDispatched handled.result := by
  induction requests generalizing journal with
  | nil => rfl
  | cons request requests ih =>
    obtain ⟨-, -, hstate⟩ := router.handle_journaled request journal
    have hlater := ih (router.journaled.handle request journal).state
    rw [length_calls_handle, hstate] at hlater
    simp only [handleAll, List.countP_cons]
    omega

/-- Whatever has been declared, the first route that may answer a request is selected and its
handler is called once and no other one; without such a route no handler is called. The table asks
about the routes up to the one it finds, in order and once each, also where the answer depends on the
questions before. Over a whole run as many handlers are called as requests are answered or end in the
breakdown of a handler. Keeping a journal of the questions or of the calls changes nothing. -/
theorem dispatches_first_match (start : Router σ) (registrations : List (Registration σ)) :
    let router := start.declareAll registrations
    (router.config = start.config ∧
      router.routes = start.routes ++ registrations.filterMap Registration.route?) ∧
    (∀ (accept : Route σ → Bool) (path : String),
      (∃ i route captures, IsFirst (Route.Answers accept path) router.routes i route ∧
        route.pattern.captures path = some captures ∧
        router.table.search path accept =
          { hit := some { route, captures }, asked := router.routes.take (i + 1) }) ∨
      (∀ route ∈ router.routes, ¬ route.Answers accept path) ∧
        router.table.search path accept = { hit := none, asked := router.routes }) ∧
    (∀ (τ : Type) (accept : Criterion σ τ) (path : String) (inquiry : Inquiry σ τ),
      let found := router.table.firstMatch? path accept inquiry.state
      let journaled := router.table.firstMatch? path accept.journaled inquiry
      (∃ i state route captures,
        IsFirst (accept.Passes path) (accept.trials inquiry.state router.routes) i (state, route) ∧
        route.pattern.captures path = some captures ∧
        found = (some { route, captures }, (accept route state).2) ∧
        journaled =
          (found.1, { state := found.2, asked := inquiry.asked ++ router.routes.take (i + 1) })) ∨
      (∀ trial ∈ accept.trials inquiry.state router.routes, ¬ accept.Passes path trial) ∧
        found.1 = none ∧
        journaled = (found.1, { state := found.2, asked := inquiry.asked ++ router.routes })) ∧
    (∀ (request : Request) (journal : Journal σ),
      let handled := router.handle request journal.state
      (∃ i route, IsFirst (router.Answers request) router.routes i route ∧
        ((∃ answer, handled.result = .ok (some answer) ∧ answer.route = route) ∨
          ∃ reason, handled.result = .error (.notInvocable route.url reason)) ∧
        (router.journaled.handle request journal).state =
          { state := handled.state, calls := journal.calls ++ [(i, handled.request)] }) ∨
      (∀ route ∈ router.routes, ¬ router.Answers request route) ∧
        handled = { result := .ok none, request, state := journal.state } ∧
        (router.journaled.handle request journal).state = journal) ∧
    ∀ (requests : List Request) (journal : Journal σ),
      (router.journaled.handleAll requests journal).1.map Handled.report =
          (router.handleAll requests journal.state).1.map Handled.report ∧
        (router.journaled.handleAll requests journal).2.state =
          (router.handleAll requests journal.state).2 ∧
        (router.journaled.handleAll requests journal).2.calls.length = journal.calls.length +
          (router.handleAll requests journal.state).1.countP fun handled =>
            isDispatched handled.result := by
  intro router
  refine ⟨start.routes_declareAll registrations, fun accept path => ?_,
    fun τ accept path inquiry => ?_, fun request journal => ?_, fun requests journal => ?_⟩
  · rcases exists_isFirst_or (Route.Answers accept path) router.routes with ⟨i, route, h⟩ | h
    · obtain ⟨captures, hcaptures, hsearch⟩ := router.table.search_of_isFirst h
      exact Or.inl ⟨i, route, captures, h, hcaptures, hsearch⟩
    · exact Or.inr ⟨h, router.table.search_of_forall_not h⟩
  · intro found journaled
    obtain ⟨hhit, hstate⟩ := Table.searchRoutes_journaled accept path router.routes inquiry
    rcases exists_isFirst_or (accept.Passes path) (accept.trials inquiry.state router.routes) with
      ⟨i, ⟨state, route⟩, h⟩ | h
    · obtain ⟨captures, hcaptures, hsearch⟩ := Table.searchRoutes_of_isFirst inquiry h
      rw [hsearch] at hhit hstate
      have hfound : found = (some { route, captures }, (accept route state).2) :=
        Prod.ext hhit.symm hstate.symm
      refine Or.inl ⟨i, state, route, captures, h, hcaptures, hfound, ?_⟩
      rw [hfound]
      exact hsearch
    · obtain ⟨hnone, hasked⟩ := Table.searchRoutes_of_forall_not inquiry h
      exact Or.inr ⟨h, hhit.symm.trans hnone,
        Prod.ext hhit (congrArg₂ Inquiry.mk hstate hasked)⟩
  · rcases exists_isFirst_or (router.Answers request) router.routes with ⟨i, route, h⟩ | h
    · refine Or.inl ⟨i, route, h, result_handle_of_isFirst h journal.state, ?_⟩
      rw [← (router.handle_journaled request journal).2.2, ← calls_handle_of_isFirst h]
    · refine Or.inr ⟨h, handle_of_forall_not h journal.state, ?_⟩
      rw [handle_of_forall_not (forall_not_journaled h)]
  · obtain ⟨hreports, hstate⟩ := router.handleAll_journaled requests journal
    exact ⟨hreports, hstate, router.length_calls_handleAll requests journal⟩

end Router

end Routing
