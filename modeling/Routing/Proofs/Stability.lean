import Routing.Proofs.Merge

/-!
# Proofs: matching again

Matching reads the method and the path of a request and writes into its parameters only. So the
parameters have no part in the choice of the route, and a request that has been matched is a fixed
point: when it is matched again, the same values are written over themselves.
-/

namespace Routing

/-! ## Writing what is there -/

namespace Params

variable {params entries : Params} {key value : String}

/-- Writing what is there already changes nothing. -/
theorem set_eq_self (h : get? params key = some value) : set key value params = params := by
  induction params with
  | nil => cases h
  | cons entry params ih =>
    obtain ⟨k, v⟩ := entry
    rw [get?_cons] at h
    rw [set]
    split_ifs at h ⊢ with hk
    · rw [Option.some.inj h]
    · rw [ih h]

theorem setAll_eq_self (h : ∀ entry ∈ entries, get? params entry.1 = some entry.2) :
    setAll params entries = params := by
  induction entries with
  | nil => rfl
  | cons entry entries ih =>
    rw [setAll_cons, set_eq_self (h entry List.mem_cons_self)]
    exact ih fun later hlater => h later (List.mem_cons_of_mem entry hlater)

theorem get?_of_mem (hnodup : (keys entries).Nodup) {entry : String × String}
    (hentry : entry ∈ entries) : get? entries entry.1 = some entry.2 := by
  induction entries with
  | nil => cases hentry
  | cons first entries ih =>
    obtain ⟨k, v⟩ := first
    obtain ⟨hk, hlater⟩ := List.nodup_cons.mp hnodup
    rw [get?_cons]
    rcases List.mem_cons.mp hentry with rfl | hentry
    · exact if_pos rfl
    · have hkey : entry.1 ∈ keys entries := List.mem_map_of_mem hentry
      have hne : k ≠ entry.1 := by
        rintro rfl
        exact hk hkey
      rw [if_neg hne, ih hlater hentry]

/-- Setting the same entries twice is setting them once, whatever was there before. -/
theorem setAll_setAll (params : Params) (h : (keys entries).Nodup) :
    setAll (setAll params entries) entries = setAll params entries := by
  refine setAll_eq_self fun entry hentry => ?_
  rw [get?_setAll, get?_reverse h, get?_of_mem h hentry, Option.some_or]

end Params

/-! ## Requests that have been matched -/

namespace Router

variable {σ : Type} {router : Router σ} {request : Request} {journal : Journal σ} {i : Nat}
  {route : Route σ} {pathParams : Params}

/-- The request is answered by the route with an index, which captures some values from its path. -/
structure Dispatches (router : Router σ) (request : Request) (journal : Journal σ) (i : Nat)
    (route : Route σ) (pathParams : Params) : Prop where
  /-- The route is the first one that may answer the request. -/
  first : IsFirst (router.Answers request) router.routes i route
  /-- The values are those that its pattern captures, each name once, with its last value. -/
  captured : ∃ captures, route.pattern.captures request.path = some captures ∧
    pathParams.Collects captures
  /-- They are written into the request. -/
  written : (router.handle request journal.state).request = request.withParams pathParams
  /-- The handler of the route answers, and the answer tells the route and the values; or the handler
  breaks down, and the error tells the route. -/
  result : (router.handle request journal.state).result =
    match (route.handler (request.withParams pathParams) journal.state).1 with
    | .ok response => .ok (some { route, pathParams, response })
    | .error breakdown => .error (.notInvocable route.url breakdown.reason)
  /-- The handler is called once, and no other one is. -/
  calls : (router.journaled.handle request journal).state.calls =
    journal.calls ++ [(i, request.withParams pathParams)]

/-- A request is dispatched to the first route that may answer it, with what this route captures. -/
theorem dispatches_of_isFirst (h : IsFirst (router.Answers request) router.routes i route)
    {captures : List (String × String)}
    (hcaptures : route.pattern.captures request.path = some captures) (journal : Journal σ) :
    router.Dispatches request journal i route (Params.setAll [] captures) := by
  have hhandled := handle_of_isFirst h hcaptures journal.state
  have hrequest : (router.handle request journal.state).request = request.enriched captures :=
    congrArg Handled.request hhandled
  refine ⟨h, ⟨captures, hcaptures, Params.collects_setAll captures⟩, hrequest, ?_, ?_⟩
  · change (router.handle request journal.state).result =
      match (route.handler (request.enriched captures) journal.state).1 with
      | .ok response => _
      | .error breakdown => _
    cases houtcome : (route.handler (request.enriched captures) journal.state).1 with
    | ok response => exact result_handle_of_ok h hcaptures houtcome
    | error breakdown => exact result_handle_of_error h hcaptures houtcome
  · rw [calls_handle_of_isFirst h, hrequest]
    rfl

/-- A request that has been matched, by whichever route, is matched by the same route when it is
handed in again, with the same values from its path, and stays as it is. This holds in any later
state of the handlers, and whether the handler answers or breaks down. Of two requests that differ in
nothing but their parameters both are matched by the same route with the same values from the path, or
neither of them is matched. -/
theorem handle_again (router : Router σ) (request : Request) (journal : Journal σ) :
    let handled := router.handle request journal.state
    (∃ i route pathParams, router.Dispatches request journal i route pathParams ∧
      (∀ later : Journal σ,
        router.Dispatches handled.request later i route pathParams ∧
          (router.handle handled.request later.state).request = handled.request) ∧
      ∀ (params : Params) (later : Journal σ),
        router.Dispatches { request with params } later i route pathParams) ∨
    handled = { result := .ok none, request, state := journal.state } ∧
      ∀ (params : Params) (state : σ), router.handle { request with params } state =
        { result := .ok none, request := { request with params }, state } := by
  intro handled
  rcases exists_isFirst_or (router.Answers request) router.routes with ⟨i, route, h⟩ | h
  · obtain ⟨captures, hcaptures⟩ := captures_of_isFirst h
    have hfirst := dispatches_of_isFirst h hcaptures journal
    have hother : ∀ (params : Params) (later : Journal σ),
        router.Dispatches { request with params } later i route (Params.setAll [] captures) := by
      intro params later
      -- a route that may answer a request may answer any with the same method and path
      have hfirst' : IsFirst (router.Answers { request with params }) router.routes i route := h
      exact dispatches_of_isFirst hfirst' hcaptures later
    refine Or.inl ⟨i, route, _, hfirst, fun later => ?_, hother⟩
    have hrequest : handled.request = request.withParams (Params.setAll [] captures) :=
      hfirst.written
    have hagain := hother (request.params.setAll (Params.setAll [] captures)) later
    have hdistinct := (Params.collects_setAll captures).distinct
    rw [hrequest]
    refine ⟨hagain, hagain.written.trans ?_⟩
    exact congrArg (fun params => { request with params })
      (Params.setAll_setAll request.params hdistinct)
  · refine Or.inr ⟨handle_of_forall_not h journal.state, fun params state => ?_⟩
    have hnone : ∀ route ∈ router.routes, ¬ router.Answers { request with params } route := h
    exact handle_of_forall_not hnone state

end Router

end Routing
