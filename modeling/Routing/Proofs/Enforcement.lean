import Routing.Proofs.Registration

/-!
# Proofs: enforcement of methods

A router that enforces methods answers a request as one that does not would over the routes with the
method of the request. Routes and requests bring the methods they are given into the same form, so
that a request finds the routes that were declared with its method, however both were written.
-/

namespace Routing

variable {σ : Type}

/-! ## The form of methods -/

/-- Requests are built with the normal form of their method. -/
theorem Request.method_of_ofParts {method path : String} {request : Request}
    (h : Request.ofParts method path = .ok request) : request.method = Method.normalize method := by
  unfold Request.ofParts at h
  split_ifs at h
  rw [← Except.ok.inj h]

namespace Route

variable {route : Route σ} {handler : Handler σ} {raw : String}

/-- Routes are built with the method whose name is the normal form of what they are given. -/
theorem method_of_create {url : Option String} (h : create url handler (some raw) = .ok route) :
    route.method.name = Method.normalize raw := by
  simp only [create] at h
  cases hurl : compileUrl (url.getD defaultUrl) with
  | error defect => simp [hurl, bind, Except.bind] at h
  | ok pattern =>
    cases hmethod : Method.parse (some raw) with
    | error error => simp [hurl, hmethod, bind, Except.bind] at h
    | ok method =>
      simp only [hurl, hmethod, bind, Except.bind, pure, Except.pure, Except.ok.injEq] at h
      have hname := Method.parse_eq_ok_iff.mp hmethod
      rw [← h, hname, Option.map_some, Option.getD_some]

theorem method_of_setMethod {before : Route σ} (h : before.setMethod (some raw) = .ok route) :
    route.method.name = Method.normalize raw := by
  unfold setMethod at h
  cases hmethod : Method.parse (some raw) with
  | error error => simp [hmethod, bind, Except.bind] at h
  | ok method =>
    simp only [hmethod, bind, Except.bind, pure, Except.pure, Except.ok.injEq] at h
    have hname := Method.parse_eq_ok_iff.mp hmethod
    rw [← h, hname, Option.map_some, Option.getD_some]

end Route

namespace Router

variable {router : Router σ} {request : Request} {route : Route σ}

/-- Under enforcement a route takes the requests with its method. -/
theorem admits_iff_of_enforce (h : router.config.enforceMethod = true) :
    router.admits request route = true ↔ route.method.name = request.method := by
  simp [admits, h]

/-- Without enforcement a route takes all requests. -/
theorem admits_of_not_enforce (h : router.config.enforceMethod = false) :
    router.admits request = fun _ => true := by
  funext route
  simp [admits, h]

/-- Without enforcement the same is selected for requests that differ in the method. -/
theorem select?_withMethod (h : router.config.enforceMethod = false) (request : Request)
    (method : String) :
    router.select? { request with method } = router.select? request := by
  rw [select?, select?, admits_of_not_enforce h, admits_of_not_enforce h]

/-- What is selected decides on the route and on the values from the path, and on what becomes of the
request. -/
theorem handle_of_select? {hit : Hit σ} (h : router.select? request = some hit) (state : σ) :
    (router.handle request state).request = request.enriched hit.captures ∧
      ∀ answer, (router.handle request state).result = .ok (some answer) →
        answer.route = hit.route ∧ answer.pathParams = Params.setAll [] hit.captures := by
  obtain ⟨found, captures⟩ := hit
  unfold handle
  rw [h]
  refine ⟨rfl, fun answer hanswer => ?_⟩
  dsimp only at hanswer
  cases hresponse : (found.dispatch (request.withParams (Params.setAll [] captures)) state).1 with
  | error error => simp [hresponse, Except.map] at hanswer
  | ok response =>
    rw [hresponse] at hanswer
    obtain rfl := Option.some.inj (Except.ok.inj hanswer)
    exact ⟨rfl, rfl⟩

/-- A router that enforces methods answers a request as one that does not answers it over the routes
with the method of the request. One that does not enforce them selects the same route with the same
values for requests that differ in the method. A route takes a request under enforcement if the
methods that both were built with are the same up to blanks around them and ASCII case; a request
with none of the allowed methods is not answered. -/
theorem handle_enforcing (table : Table σ) (config other : Config) (request : Request) (state : σ) :
    let enforcing : Router σ := { table, config := { config with enforceMethod := true } }
    let indifferent : Router σ := { table, config := { other with enforceMethod := false } }
    let restricted : Router σ :=
      { indifferent with
        table := ⟨table.routes.filter fun route => route.method.name = request.method⟩ }
    enforcing.handle request state = restricted.handle request state ∧
    (∀ method : String,
      let renamed : Request := { request with method }
      indifferent.select? renamed = indifferent.select? request ∧
      (indifferent.handle renamed state).request =
        { (indifferent.handle request state).request with method } ∧
      ∀ answer answer', (indifferent.handle request state).result = .ok (some answer) →
        (indifferent.handle renamed state).result = .ok (some answer') →
          answer'.route = answer.route ∧ answer'.pathParams = answer.pathParams) ∧
    (∀ (s u path : String) (route : Route σ) (built : Request),
      ((∃ url handler, Route.create url handler (some s) = .ok route) ∨
        ∃ before : Route σ, before.setMethod (some s) = .ok route) →
      Request.ofParts u path = .ok built →
        (enforcing.admits built route = true ↔
          Text.asciiUpper (Text.trim s) = Text.asciiUpper (Text.trim u))) ∧
    ∀ (u path : String) (built : Request), Request.ofParts u path = .ok built →
      Text.asciiUpper (Text.trim u) ∉ Method.all.map Method.name →
        enforcing.handle built state = { result := .ok none, request := built, state } := by
  intro enforcing indifferent restricted
  have hlax : indifferent.config.enforceMethod = false := rfl
  refine ⟨?_, fun method => ?_, fun s u path route built hroute hbuilt => ?_,
    fun u path built hbuilt hforeign => ?_⟩
  · have hselect : enforcing.select? request = restricted.select? request := by
      have haccept : enforcing.admits request =
          fun route : Route σ => decide (route.method.name = request.method) := by
        funext route
        exact Bool.false_or _
      have hfree : restricted.admits request = fun _ => true := admits_of_not_enforce rfl
      -- it is the same to skip routes in the search and to take them out before
      rw [select?_eq_findSome?, select?_eq_findSome?, haccept, hfree, ← List.head?_filterMap,
        ← List.filterMap_filter, List.head?_filterMap]
      rfl
    exact handle_congr hselect state
  · intro renamed
    have hsame := select?_withMethod hlax request method
    refine ⟨hsame, ?_⟩
    cases hselect : indifferent.select? request with
    | none =>
      have hnone := hsame.trans hselect
      simp only [handle, hselect, renamed, hnone]
      exact ⟨trivial, fun answer answer' hanswer => by simp at hanswer⟩
    | some hit =>
      obtain ⟨hrequest, hresult⟩ := handle_of_select? hselect state
      obtain ⟨hrequest', hresult'⟩ := handle_of_select? (hsame.trans hselect) state
      rw [hrequest, hrequest']
      refine ⟨rfl, fun answer answer' hanswer hanswer' => ?_⟩
      obtain ⟨hroute, hparams⟩ := hresult answer hanswer
      obtain ⟨hroute', hparams'⟩ := hresult' answer' hanswer'
      exact ⟨hroute'.trans hroute.symm, hparams'.trans hparams.symm⟩
  · have hmethod : route.method.name = Method.normalize s := by
      rcases hroute with ⟨url, handler, hcreate⟩ | ⟨before, hset⟩
      · exact Route.method_of_create hcreate
      · exact Route.method_of_setMethod hset
    rw [admits_iff_of_enforce rfl, hmethod, Request.method_of_ofParts hbuilt]
    exact Iff.rfl
  · refine handle_of_forall_not (fun route _ hanswers => hforeign ?_) state
    have hmethod : route.method.name = built.method := hanswers.1 rfl
    rw [Request.method_of_ofParts hbuilt] at hmethod
    exact List.mem_map.mpr ⟨route.method, route.method.mem_all, hmethod⟩

end Router

end Routing
