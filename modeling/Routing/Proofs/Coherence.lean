import Routing.Proofs.Registration

/-!
# Proofs: coherence of routes

A route can be changed after it has been built: its template, its method, its handler and its name
are set one by one, and setting the first two may fail. Whatever has been tried, the route is the one
that would be built from what was set last. In particular its pattern belongs to its template.
-/

namespace Routing.Route

variable {σ : Type}

/-! ## Changes -/

/-- A call that changes a route: it sets the template, the method, the handler or the name. -/
inductive Change (σ : Type) where
  | url (url : Option String)
  | method (method : Option String)
  | handler (handler : Handler σ)
  | name (name : Option String)

namespace Change

/-- The template that is set. -/
def url? : Change σ → Option (Option String)
  | .url raw => some raw
  | _ => none

/-- The method that is set. -/
def method? : Change σ → Option (Option String)
  | .method raw => some raw
  | _ => none

/-- The handler that is set. -/
def handler? : Change σ → Option (Handler σ)
  | .handler raw => some raw
  | _ => none

/-- The name that is set. -/
def name? : Change σ → Option (Option String)
  | .name raw => some raw
  | _ => none

/-- The call turns the route into another one, which differs in one attribute, the template and its
pattern counting as one. The template has to compile and the method has to be an allowed one. -/
inductive Succeeds (route : Route σ) : Change σ → Route σ → Prop where
  | url {raw : Option String} {pattern : Pattern} (h : Pattern.compile (raw.getD "/") = .ok pattern) :
      Succeeds route (url raw) { route with url := raw.getD "/", pattern }
  | method {raw : Option String} {method : Method}
      (h : method.name = (raw.map Method.normalize).getD "GET") :
      Succeeds route (.method raw) { route with method }
  | handler (handler : Handler σ) : Succeeds route (.handler handler) { route with handler }
  | name (name : Option String) : Succeeds route (.name name) { route with name }

/-- The call fails with the error, whatever the route is. -/
inductive Fails : Change σ → Error → Prop where
  | url {raw : Option String} {defect : TemplateDefect}
      (h : Pattern.compile (raw.getD "/") = .error defect) :
      Fails (url raw) (.malformedTemplate (raw.getD "/") defect)
  | method {raw : String} (h : ∀ method : Method, method.name ≠ Method.normalize raw) :
      Fails (method (some raw)) (.invalidMethod raw)

end Change

/-- What a call gives: the route with the change, or an error. -/
def outcome (route : Route σ) : Change σ → Except Error (Route σ)
  | .url url => route.setUrl url
  | .method method => route.setMethod method
  | .handler handler => .ok (route.setHandler handler)
  | .name name => .ok (route.named name)

/-- The route after a call. A call that fails leaves it as it is. -/
def change (route : Route σ) (change : Change σ) : Route σ :=
  (route.outcome change).toOption.getD route

/-- The route after several calls. -/
def changeAll (route : Route σ) (changes : List (Change σ)) : Route σ :=
  changes.foldl change route

/-- Those of several calls that succeed, in order. -/
def successes (route : Route σ) : List (Change σ) → List (Change σ)
  | [] => []
  | change :: changes =>
    let later := (route.change change).successes changes
    if (route.outcome change).isOk then change :: later else later

variable {route later : Route σ} {change : Change σ}

/-! ## One call -/

theorem outcome_cases (route : Route σ) (change : Change σ) :
    (∃ later, change.Succeeds route later ∧ route.outcome change = .ok later) ∨
      ∃ error, change.Fails error ∧ route.outcome change = .error error := by
  cases change with
  | url raw =>
    simp only [outcome, setUrl, compileUrl]
    cases hurl : Pattern.compile (raw.getD defaultUrl) with
    | error defect => exact Or.inr ⟨_, .url hurl, rfl⟩
    | ok pattern => exact Or.inl ⟨_, .url hurl, rfl⟩
  | method raw =>
    simp only [outcome, setMethod]
    cases hmethod : Method.parse raw with
    | error error =>
      obtain ⟨text, rfl, hnone, rfl⟩ := Method.parse_eq_error_iff.mp hmethod
      exact Or.inr ⟨_, .method hnone, rfl⟩
    | ok method => exact Or.inl ⟨_, .method (Method.parse_eq_ok_iff.mp hmethod), rfl⟩
  | handler handler => exact Or.inl ⟨_, .handler handler, rfl⟩
  | name name => exact Or.inl ⟨_, .name name, rfl⟩

/-- A call succeeds, and the route is then changed accordingly, or it fails and changes nothing. -/
theorem change_cases (route : Route σ) (change : Change σ) :
    (∃ later, change.Succeeds route later ∧ route.outcome change = .ok later ∧
        route.change change = later) ∨
      ∃ error, change.Fails error ∧ route.outcome change = .error error ∧
        route.change change = route := by
  rcases route.outcome_cases change with ⟨later, hlater, houtcome⟩ | ⟨error, herror, houtcome⟩
  · exact Or.inl ⟨later, hlater, houtcome, by rw [Route.change, houtcome]; rfl⟩
  · exact Or.inr ⟨error, herror, houtcome, by rw [Route.change, houtcome]; rfl⟩

/-- What a route is built from describes it. -/
theorem map_named_create_eq_ok_iff {url method name : Option String} {handler : Handler σ} :
    (create url handler method).map (·.named name) = .ok route ↔
      (Registration.direct (url.getD "/") handler method name).Describes route := by
  rw [← Registration.outcome_eq_ok_iff]
  rfl

/-- A route that is described by some attributes is described after a call by the one that is set and
the others. -/
theorem Change.Succeeds.describes {url method name : Option String} {handler : Handler σ}
    (hlater : change.Succeeds route later)
    (h : (Registration.direct (url.getD "/") handler method name).Describes route) :
    (Registration.direct ((change.url?.getD url).getD "/") (change.handler?.getD handler)
      (change.method?.getD method) (change.name?.getD name)).Describes later := by
  cases hlater with
  | url hcompile => exact ⟨rfl, hcompile, h.method, h.handler, h.name⟩
  | method hmethod => exact ⟨h.url, h.pattern, hmethod, h.handler, h.name⟩
  | handler handler => exact ⟨h.url, h.pattern, h.method, rfl, h.name⟩
  | name name => exact ⟨h.url, h.pattern, h.method, h.handler, rfl⟩

/-! ## Several calls -/

theorem getLastD_filterMap_cons {α : Type} (set? : Change σ → Option α) (change : Change σ)
    (changes : List (Change σ)) (start : α) :
    ((change :: changes).filterMap set?).getLastD start =
      (changes.filterMap set?).getLastD ((set? change).getD start) := by
  cases hset : set? change with
  | none => rw [List.filterMap_cons_none hset, Option.getD_none]
  | some value => rw [List.filterMap_cons_some hset, List.getLastD_cons, Option.getD_some]

/-- A route that is described by some attributes is described after several calls by those that have
been set last. -/
theorem describes_changeAll {url method name : Option String} {handler : Handler σ}
    (h : (Registration.direct (url.getD "/") handler method name).Describes route)
    (changes : List (Change σ)) :
    let done := route.successes changes
    (Registration.direct (((done.filterMap Change.url?).getLastD url).getD "/")
      ((done.filterMap Change.handler?).getLastD handler)
      ((done.filterMap Change.method?).getLastD method)
      ((done.filterMap Change.name?).getLastD name)).Describes (route.changeAll changes) := by
  induction changes generalizing route url method handler name with
  | nil => exact h
  | cons change changes ih =>
    have hcons : route.changeAll (change :: changes) = (route.change change).changeAll changes := rfl
    rw [hcons, successes]
    rcases route.change_cases change with ⟨later, hlater, houtcome, hchange⟩ |
      ⟨error, -, houtcome, hchange⟩
    · have hok : (route.outcome change).isOk = true := by rw [houtcome]; rfl
      rw [hchange, if_pos hok]
      simp only [getLastD_filterMap_cons]
      exact ih (hlater.describes h)
    · have hok : ¬ (route.outcome change).isOk = true := by
        rw [houtcome]
        exact Bool.false_ne_true
      rw [hchange, if_neg hok]
      exact ih h

/-- A route that is built and then changed in any way, with calls that succeed and calls that fail, is
the route that would be built from the template, the method, the handler and the name that have been
set last with success, or given at first. Its template is this one, or the root without one; its
pattern is what the template is compiled to; and its method is one of the nine allowed ones. A further
call either succeeds and changes one attribute, the pattern going with the template, or it fails for
what it was given and changes nothing. So a template that has been set with success is that of the
route, and the route matches what any route built with this template matches. -/
theorem changeAll_coherent {url method name : Option String} {handler : Handler σ}
    {start : Route σ} (h : (create url handler method).map (·.named name) = .ok start)
    (changes : List (Change σ)) :
    let route := start.changeAll changes
    let done := start.successes changes
    let lastUrl := (done.filterMap Change.url?).getLastD url
    let lastMethod := (done.filterMap Change.method?).getLastD method
    let lastHandler := (done.filterMap Change.handler?).getLastD handler
    let lastName := (done.filterMap Change.name?).getLastD name
    (create lastUrl lastHandler lastMethod).map (·.named lastName) = .ok route ∧
    (route.url = lastUrl.getD "/" ∧ Pattern.compile route.url = .ok route.pattern ∧
      route.method.name = (lastMethod.map Method.normalize).getD "GET" ∧
      route.method.name ∈ ["GET", "HEAD", "POST", "PUT", "DELETE", "CONNECT", "OPTIONS", "TRACE",
        "PATCH"] ∧
      route.handler = lastHandler ∧ route.name = lastName) ∧
    (∀ change : Change σ,
      (∃ later, change.Succeeds route later ∧ route.outcome change = .ok later ∧
          route.change change = later) ∨
        ∃ error, change.Fails error ∧ route.outcome change = .error error ∧
          route.change change = route) ∧
    ∀ text later, route.setUrl (some text) = .ok later → later.url = text ∧
      ∀ handler' method' (other : Route σ), create (some text) handler' method' = .ok other →
        ∀ path, later.pattern.isMatch path = other.pattern.isMatch path ∧
          later.pattern.captures path = other.pattern.captures path := by
  intro route done lastUrl lastMethod lastHandler lastName
  have hroute : (Registration.direct (lastUrl.getD "/") lastHandler lastMethod lastName).Describes
      route := describes_changeAll (map_named_create_eq_ok_iff.mp h) changes
  have hurl : route.url = lastUrl.getD "/" := hroute.url
  refine ⟨map_named_create_eq_ok_iff.mpr hroute, ⟨hurl, ?_, hroute.method, ?_, ?_, hroute.name⟩,
    route.change_cases, fun text later hset => ?_⟩
  · rw [hurl]
    exact hroute.pattern
  · exact List.mem_map_of_mem route.method.mem_all
  · exact (Option.some.inj hroute.handler).symm
  · rcases route.outcome_cases (.url (some text)) with ⟨later', hlater, houtcome⟩ |
      ⟨error, -, houtcome⟩
    · obtain rfl := Except.ok.inj (hset.symm.trans houtcome)
      cases hlater with
      | url hcompile =>
        refine ⟨rfl, fun handler' method' other hother path => ?_⟩
        have hnamed : (create (some text) handler' method').map (·.named none) =
            .ok (other.named none) := by
          rw [hother]
          rfl
        have hpattern := (map_named_create_eq_ok_iff.mp hnamed).pattern
        rw [Except.ok.inj (hcompile.symm.trans hpattern)]
        exact ⟨rfl, rfl⟩
    · have herror := hset.symm.trans houtcome
      exact absurd herror (by simp)

/-- Calls that fail stand between calls that succeed, and the template is reset in the end. -/
theorem changeAll_coherent_reset :
    let built := (create (some "/news") StockHandler.echo.toHandler none).map (·.named none)
    let changes : List (Change Nat) :=
      [.url (some "/posts/[i:id]?"), .method (some " delete "), .url (some "/news/["),
        .method (some "BREW"), .name (some "posts"), .url none]
    ∃ start, built = .ok start ∧ let route := start.changeAll changes
      (create none route.handler (some " delete ")).map (·.named (some "posts")) = .ok route ∧
      route.url = "/" ∧ route.method.name = "DELETE" ∧ Pattern.compile "/" = .ok route.pattern := by
  intro built changes
  have hget : ∀ (result : Except Error (Route Nat)) (h : result.toOption.isSome),
      result = .ok (result.toOption.get h) := by
    rintro (_ | route) h
    · exact absurd h Bool.false_ne_true
    · rfl
  let start := built.toOption.get (by decide +kernel)
  have hstart : built = .ok start := hget built _
  obtain ⟨hafresh, ⟨hurl, hpattern, hmethod, -, hhandler, -⟩, -⟩ := changeAll_coherent hstart changes
  have hurls : (start.successes changes).filterMap Change.url? =
      [some "/posts/[i:id]?", none] := by decide +kernel
  have hmethods : (start.successes changes).filterMap Change.method? = [some " delete "] := by
    decide +kernel
  have hnames : (start.successes changes).filterMap Change.name? = [some "posts"] := by
    decide +kernel
  rw [hurls, hmethods, hnames, ← hhandler] at hafresh
  rw [hurls] at hurl
  rw [hmethods] at hmethod
  refine ⟨start, hstart, hafresh, hurl, hmethod.trans (by decide), ?_⟩
  rw [← hpattern, hurl]
  rfl

end Routing.Route
