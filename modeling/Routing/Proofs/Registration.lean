import Routing.Proofs.Dispatch

/-!
# Proofs: registration

A declaration is refused for its handler, its template or its method, looked at in this order, or it
describes exactly one route, and that route is put behind those that are there. So the routes of a
router are those of the declarations that have succeeded, in order, and a router that is given these
routes at once is the same.
-/

namespace Routing

variable {σ : Type}

/-! ## Methods of routes -/

namespace Method

/-- A route is bound to the method whose name is the normal form of what is asked for, and to `GET`
if nothing is asked for. -/
theorem parse_eq_ok_iff {raw : Option String} {method : Method} :
    parse raw = .ok method ↔ method.name = (raw.map normalize).getD "GET" := by
  cases raw with
  | none =>
    rw [parse, Except.ok.injEq]
    constructor
    · rintro rfl
      rfl
    · exact fun h => (name_injective (h.trans (show "GET" = get.name from rfl))).symm
  | some raw =>
    rw [parse, Option.map_some, Option.getD_some, ← ofName?_eq_some_iff]
    cases ofName? raw <;> simp

/-- A text is refused if its normal form is no name of a method. -/
theorem parse_eq_error_iff {raw : Option String} {error : Error} :
    parse raw = .error error ↔ ∃ text, raw = some text ∧
      (∀ method : Method, method.name ≠ normalize text) ∧ error = .invalidMethod text := by
  cases raw with
  | none => simp [parse]
  | some raw =>
    have hnone : ofName? raw = none ↔ ∀ method : Method, method.name ≠ normalize raw := by
      rw [Option.eq_none_iff_forall_ne_some]
      exact forall_congr' fun method => not_congr (ofName?_eq_some_iff raw method)
    simp only [parse, Option.some.injEq, exists_eq_left', ← hnone]
    cases ofName? raw <;> simp [eq_comm]

end Method

/-! ## One declaration -/

namespace Registration

/-- The template of the route that is declared. -/
def url : Registration σ → String
  | direct url _ _ _ => url
  | byName url _ _ _ _ => url

/-- The method asked for. -/
def method : Registration σ → Option String
  | direct _ _ method _ => method
  | byName _ _ method _ _ => method

/-- The name given to the route. -/
def name : Registration σ → Option String
  | direct _ _ _ name => name
  | byName _ _ _ name _ => name

/-- The handler, if it is given or can be found under its name. -/
def handler? : Registration σ → Option (Handler σ)
  | direct _ handler _ _ => some handler
  | byName _ handlerName _ _ registry => registry.get? handlerName

/-- The route is the one that is declared. -/
structure Describes (registration : Registration σ) (route : Route σ) : Prop where
  /-- The template is the one given. -/
  url : route.url = registration.url
  /-- The pattern is what the template is compiled to. -/
  pattern : Pattern.compile registration.url = .ok route.pattern
  /-- The method has the name asked for, in normal form; without one it is `GET`. -/
  method : route.method.name = (registration.method.map Method.normalize).getD "GET"
  /-- The handler is the one given or found. -/
  handler : registration.handler? = some route.handler
  /-- The name is the one given. -/
  name : route.name = registration.name

/-- The declaration is refused with the error. The handler comes first, then the template, then the
method. -/
inductive Refused : Registration σ → Error → Prop where
  /-- There is no handler under the name. -/
  | handler {url handlerName : String} {method name : Option String} {registry : Registry σ}
      (h : registry.get? handlerName = none) :
      Refused (byName url handlerName method name registry) (.invalidHandler handlerName)
  /-- There is a handler, but the template cannot be compiled. -/
  | template {registration : Registration σ} {handler : Handler σ} {defect : TemplateDefect}
      (hhandler : registration.handler? = some handler)
      (h : Pattern.compile registration.url = .error defect) :
      Refused registration (.malformedTemplate registration.url defect)
  /-- There are a handler and a pattern, but the method is none of the allowed ones. -/
  | method {registration : Registration σ} {handler : Handler σ} {pattern : Pattern} {raw : String}
      (hhandler : registration.handler? = some handler)
      (hurl : Pattern.compile registration.url = .ok pattern)
      (hmethod : registration.method = some raw)
      (h : ∀ method : Method, method.name ≠ Method.normalize raw) :
      Refused registration (.invalidMethod raw)

/-- The route that is declared, or the error with which the declaration is refused. -/
def outcome (registration : Registration σ) : Except Error (Route σ) :=
  match registration with
  | direct url handler method name =>
    (Route.create (some url) handler method).map (·.named name)
  | byName url handlerName method name registry =>
    match registry.get? handlerName with
    | none => .error (.invalidHandler handlerName)
    | some handler => (Route.create (some url) handler method).map (·.named name)

variable {registration : Registration σ} {route : Route σ} {error : Error}

/-- With a handler at hand, template and method are looked at in this order. -/
theorem outcome_of_handler {handler : Handler σ} (h : registration.handler? = some handler) :
    registration.outcome = (do
      let pattern ← Route.compileUrl registration.url
      let method ← Method.parse registration.method
      return { url := registration.url, pattern, method, handler, name := registration.name }) := by
  have hcreate : ∀ (url : String) (method name : Option String),
      (Route.create (some url) handler method).map (·.named name) = (do
        let pattern ← Route.compileUrl url
        let method ← Method.parse method
        return ({ url, pattern, method, handler, name } : Route σ)) := by
    intro url method name
    simp only [Route.create, Option.getD_some]
    cases Route.compileUrl url with
    | error defect => rfl
    | ok pattern => cases Method.parse method <;> rfl
  cases registration with
  | direct url given method name =>
    obtain rfl := Option.some.inj h
    exact hcreate url method name
  | byName url handlerName method name registry =>
    change registry.get? handlerName = some handler at h
    simp only [outcome, h]
    exact hcreate url method name

theorem outcome_cases (registration : Registration σ) :
    (∃ route, registration.Describes route ∧ registration.outcome = .ok route) ∨
      ∃ error, registration.Refused error ∧ registration.outcome = .error error := by
  cases hhandler : registration.handler? with
  | none =>
    cases registration with
    | direct => simp [handler?] at hhandler
    | byName url handlerName method name registry =>
      change registry.get? handlerName = none at hhandler
      exact Or.inr ⟨_, .handler hhandler, by simp only [outcome, hhandler]⟩
  | some handler =>
    rw [outcome_of_handler hhandler]
    cases hurl : Pattern.compile registration.url with
    | error defect =>
      refine Or.inr ⟨_, .template hhandler hurl, ?_⟩
      rw [Route.compileUrl, hurl]
      rfl
    | ok pattern =>
      rw [Route.compileUrl, hurl]
      cases hmethod : Method.parse registration.method with
      | error error =>
        obtain ⟨raw, hraw, hnone, rfl⟩ := Method.parse_eq_error_iff.mp hmethod
        exact Or.inr ⟨_, .method hhandler hurl hraw hnone, rfl⟩
      | ok method =>
        exact Or.inl ⟨_, ⟨rfl, hurl, Method.parse_eq_ok_iff.mp hmethod, hhandler, rfl⟩, rfl⟩

/-- A declaration describes at most one route. -/
theorem Describes.unique {other : Route σ} (h : registration.Describes route)
    (h' : registration.Describes other) : route = other := by
  obtain ⟨url, pattern, method, handler, name⟩ := route
  obtain ⟨url', pattern', method', handler', name'⟩ := other
  obtain rfl : url = url' := h.url.trans h'.url.symm
  obtain rfl : pattern = pattern' := Except.ok.inj (h.pattern.symm.trans h'.pattern)
  obtain rfl : method = method' := Method.name_injective (h.method.trans h'.method.symm)
  obtain rfl : handler = handler' := Option.some.inj (h.handler.symm.trans h'.handler)
  obtain rfl : name = name' := h.name.trans h'.name.symm
  rfl

theorem Refused.not_describes (h : registration.Refused error) : ¬ registration.Describes route := by
  intro hroute
  have hhandler := hroute.handler
  have hpattern := hroute.pattern
  have hmethod := hroute.method
  cases h with
  | handler h =>
    change Registry.get? _ _ = some _ at hhandler
    simp [h] at hhandler
  | template _ h => simp [h] at hpattern
  | method _ _ hraw h =>
    rw [hraw] at hmethod
    exact h _ hmethod

/-- A declaration that is refused is refused with one error. -/
theorem Refused.unique {other : Error} (h : registration.Refused error)
    (h' : registration.Refused other) : error = other := by
  cases h with
  | handler h =>
    cases h' with
    | handler => rfl
    | template hhandler | method hhandler =>
      change Registry.get? _ _ = some _ at hhandler
      simp [h] at hhandler
  | template hhandler hurl =>
    cases h' with
    | handler h =>
      change Registry.get? _ _ = some _ at hhandler
      simp [h] at hhandler
    | template _ hurl' => rw [Except.error.inj (hurl.symm.trans hurl')]
    | method _ hurl' => simp [hurl] at hurl'
  | method hhandler hurl hraw =>
    cases h' with
    | handler h =>
      change Registry.get? _ _ = some _ at hhandler
      simp [h] at hhandler
    | template _ hurl' => simp [hurl] at hurl'
    | method _ _ hraw' => rw [Option.some.inj (hraw.symm.trans hraw')]

theorem outcome_eq_ok_iff : registration.outcome = .ok route ↔ registration.Describes route := by
  rcases registration.outcome_cases with ⟨found, hfound, houtcome⟩ | ⟨error, hrefused, houtcome⟩
  · rw [houtcome, Except.ok.injEq]
    exact ⟨fun h => h ▸ hfound, hfound.unique⟩
  · rw [houtcome]
    exact iff_of_false (by simp) hrefused.not_describes

theorem outcome_eq_error_iff : registration.outcome = .error error ↔ registration.Refused error := by
  rcases registration.outcome_cases with ⟨found, hfound, houtcome⟩ | ⟨other, hrefused, houtcome⟩
  · rw [houtcome]
    exact iff_of_false (by simp) fun hrefused => hrefused.not_describes hfound
  · rw [houtcome, Except.error.injEq]
    exact ⟨fun h => h ▸ hrefused, hrefused.unique⟩

theorem route?_eq_some_iff : registration.route? = some route ↔ registration.Describes route := by
  have htoOption : registration.route? = registration.outcome.toOption := by
    cases registration with
    | direct url handler method name =>
      simp only [route?, outcome]
      cases Route.create (some url) handler method <;> rfl
    | byName url handlerName method name registry =>
      simp only [route?, outcome]
      cases registry.get? handlerName with
      | none => rfl
      | some handler =>
        simp only [Option.bind_some]
        cases Route.create (some url) handler method <;> rfl
  rw [← outcome_eq_ok_iff, htoOption]
  cases registration.outcome <;> simp [Except.toOption]

end Registration

/-! ## Histories -/

namespace Router

open Registration (Describes Refused)

/-- A declaration puts its route behind the others or fails. -/
theorem declare_eq (router : Router σ) (registration : Registration σ) :
    router.declare registration = registration.outcome.map fun route =>
      { router with table := router.table.push route } := by
  have hadd : ∀ (url : String) (handler : Handler σ) (method name : Option String),
      router.addRoute url handler method name =
        ((Route.create (some url) handler method).map (·.named name)).map fun route =>
          { router with table := router.table.push route } := by
    intro url handler method name
    unfold addRoute
    cases Route.create (some url) handler method <;> rfl
  cases registration with
  | direct url handler method name => exact hadd url handler method name
  | byName url handlerName method name registry =>
    simp only [declare, addNamedRoute, Registration.outcome]
    cases registry.get? handlerName with
    | none => rfl
    | some handler => exact hadd url handler method name

theorem declareAll_take_succ (router : Router σ) {registrations : List (Registration σ)} {i : Nat}
    {registration : Registration σ} (h : registrations[i]? = some registration) :
    router.declareAll (registrations.take (i + 1)) =
      ((router.declareAll (registrations.take i)).declare registration).toOption.getD
        (router.declareAll (registrations.take i)) := by
  rw [List.take_add_one, h]
  exact List.foldl_append

/-- What one declaration in a history does: it succeeds and its route follows the others, or it
fails and nothing changes. -/
theorem declare_step (router : Router σ) {registrations : List (Registration σ)} {i : Nat}
    {registration : Registration σ} (h : registrations[i]? = some registration) :
    let before := router.declareAll (registrations.take i)
    let later := router.declareAll (registrations.take (i + 1))
    (∃ route, registration.Describes route ∧ before.declare registration = .ok later ∧
        later.routes = before.routes ++ [route]) ∨
      ∃ error, registration.Refused error ∧ before.declare registration = .error error ∧
        later = before := by
  intro before later
  have hlater : later = (before.declare registration).toOption.getD before :=
    router.declareAll_take_succ h
  rcases registration.outcome_cases with ⟨route, hroute, houtcome⟩ | ⟨error, herror, houtcome⟩
  · have hdeclare := (before.declare_eq registration).trans (congrArg _ houtcome)
    rw [hdeclare] at hlater
    exact Or.inl ⟨route, hroute, hdeclare.trans (congrArg Except.ok hlater.symm),
      congrArg routes hlater⟩
  · have hdeclare := (before.declare_eq registration).trans (congrArg _ houtcome)
    rw [hdeclare] at hlater
    exact Or.inr ⟨error, herror, hdeclare, hlater⟩

/-- A name stands for the first route that bears it. -/
theorem routeByName?_cases (router : Router σ) (name : String) :
    (∃ i route, IsFirst (fun route => route.name = some name) router.routes i route ∧
        router.routeByName? name = some route) ∨
      (∀ route ∈ router.routes, route.name ≠ some name) ∧ router.routeByName? name = none := by
  have hfind : router.routeByName? name =
      router.routes.find? fun route => route.name = some name := rfl
  rw [hfind]
  generalize router.routes = routes
  induction routes with
  | nil => exact Or.inr ⟨by simp, rfl⟩
  | cons route routes ih =>
    by_cases hname : route.name = some name
    · exact Or.inl ⟨0, route, isFirst_cons_zero.mpr ⟨rfl, hname⟩, List.find?_cons_of_pos (by simpa)⟩
    · rw [List.find?_cons_of_neg (by simpa)]
      rcases ih with ⟨i, found, hfirst, hfound⟩ | ⟨hall, hnone⟩
      · exact Or.inl ⟨i + 1, found, isFirst_cons_succ.mpr ⟨hname, hfirst⟩, hfound⟩
      · exact Or.inr ⟨by simpa [hname] using hall, hnone⟩

/-- Answers depend on the routes and on whether methods matter. -/
theorem handle_congr {router other : Router σ} {request : Request}
    (h : router.select? request = other.select? request) (state : σ) :
    router.handle request state = other.handle request state := by
  unfold handle
  rw [h]

/-- After any history of declarations the routes are those that were there before, followed by those
of the declarations that have succeeded, in order. Each declaration in the history succeeds with the
one route that it describes, which is put behind the others, or it fails with the one error with
which it is refused, and nothing changes. A router that is given the same routes at once is the same
but for its settings, which are the default ones: it has the same table and finds the same routes
under all names, each time the first one of the name, and it gives the same answers to all requests
unless methods are enforced by the other one. -/
theorem declareAll_history (start : Router σ) (registrations : List (Registration σ)) :
    let after := start.declareAll registrations
    let bulk := ofRoutes (start.routes ++ registrations.filterMap Registration.route?)
    (after.config = start.config ∧
      after.routes = start.routes ++ registrations.filterMap Registration.route?) ∧
    (∀ i registration, registrations[i]? = some registration →
      let before := start.declareAll (registrations.take i)
      let later := start.declareAll (registrations.take (i + 1))
      (∃ route, registration.Describes route ∧ before.declare registration = .ok later ∧
          later.routes = before.routes ++ [route]) ∨
        ∃ error, registration.Refused error ∧ before.declare registration = .error error ∧
          later = before) ∧
    (∀ registration : Registration σ,
      (∀ route, registration.route? = some route ↔ registration.Describes route) ∧
      ∀ (router : Router σ) error,
        router.declare registration = .error error ↔ registration.Refused error) ∧
    (bulk = { after with config := {} } ∧ bulk.table = after.table ∧
      (∀ name, bulk.routeByName? name = after.routeByName? name) ∧
      (start.config.enforceMethod = false →
        ∀ request state, bulk.handle request state = after.handle request state)) ∧
    ∀ name,
      (∃ i route, IsFirst (fun route => route.name = some name) after.routes i route ∧
          after.routeByName? name = some route) ∨
        (∀ route ∈ after.routes, route.name ≠ some name) ∧ after.routeByName? name = none := by
  intro after bulk
  have hafter := start.routes_declareAll registrations
  have htable : bulk.table = after.table := congrArg Table.mk hafter.2.symm
  have hbulk : bulk = { after with config := {} } := by rw [← htable]; rfl
  refine ⟨hafter, fun i registration => start.declare_step, fun registration => ⟨fun route => ?_,
    fun router error => ?_⟩, ⟨hbulk, htable, fun name => ?_, fun henforce request state => ?_⟩,
    after.routeByName?_cases⟩
  · exact Registration.route?_eq_some_iff
  · rw [declare_eq, ← Registration.outcome_eq_error_iff]
    cases registration.outcome <;> simp [Except.map]
  · rw [hbulk]
    rfl
  · have hadmits : bulk.admits request = after.admits request := by
      funext route
      rw [admits, admits, hafter.1, henforce]
      rfl
    refine handle_congr ?_ state
    rw [select?, select?, htable, hadmits]

/-- A router that enforces methods passes over a route that answers once the same routes are given to
a router at once. -/
theorem ofRoutes_answers_otherwise :
    let registrations : List (Registration Nat) :=
      [.direct "/a" StockHandler.echo.toHandler (some "POST") none]
    let request : Request := { method := "GET", path := "/a", params := [] }
    let after := (create { enforceMethod := true }).declareAll registrations
    let bulk := ofRoutes (registrations.filterMap Registration.route?)
    bulk.table = after.table ∧ isDispatched (bulk.handle request 0).result = true ∧
      isDispatched (after.handle request 0).result = false := by
  intro registrations request after bulk
  refine ⟨?_, by decide +kernel, by decide +kernel⟩
  exact congrArg Table.mk ((create { enforceMethod := true }).routes_declareAll registrations).2.symm

end Router

end Routing
