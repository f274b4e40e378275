import Routing.Proofs.Registration

/-!
# Proofs: containment of breakdowns

A handler that breaks down ends its own request and no other one: the error tells the route and what
the handler has left behind, and the router goes on. So a handler that breaks down can be replaced
by one that answers and leaves the same state, and no request to another route shows a difference.
-/

namespace Routing

variable {σ : Type}

/-! ## Handlers that stand in for others -/

namespace Handler

/-- The handler breaks down over some request. -/
def MayBreakDown (handler : Handler σ) : Prop :=
  ∃ request state breakdown, (handler request state).1 = .error breakdown

/-- The substitute leaves the state as the handler does, and it always answers. -/
structure StandsInFor (substitute handler : Handler σ) : Prop where
  /-- It never breaks down. -/
  answers : ∀ request state, ∃ response, (substitute request state).1 = .ok response
  /-- It changes the state in the same way. -/
  state : ∀ request state, (substitute request state).2 = (handler request state).2

variable {substitute handler : Handler σ}

theorem StandsInFor.journaled (h : substitute.StandsInFor handler) (index : Nat) :
    (Handler.journaled index substitute).StandsInFor (Handler.journaled index handler) where
  answers request journal := h.answers request journal.state
  state request journal := by
    unfold Handler.journaled
    rw [h.state]

theorem exists_ok_of_not_mayBreakDown (h : ¬ handler.MayBreakDown) (request : Request) (state : σ) :
    ∃ response, (handler request state).1 = .ok response := by
  cases houtcome : (handler request state).1 with
  | error breakdown => exact absurd ⟨request, state, breakdown, houtcome⟩ h
  | ok response => exact ⟨response, rfl⟩

end Handler

/-- The route with the handler of its substitute, if it has one. -/
def Route.substituted (substitute : Option (Handler σ)) (route : Route σ) : Route σ :=
  substitute.elim route route.setHandler

namespace Router

/-- The router in which the routes with certain numbers have other handlers. -/
def substituted (router : Router σ) (substitutes : Nat → Option (Handler σ)) : Router σ where
  table := ⟨router.routes.mapIdx fun i route => route.substituted (substitutes i)⟩
  config := router.config

/-- The substitutes stand in for the handlers of the routes with their numbers. -/
def Substitutes (router : Router σ) (substitutes : Nat → Option (Handler σ)) : Prop :=
  ∀ i route substitute, router.routes[i]? = some route → substitutes i = some substitute →
    substitute.StandsInFor route.handler

variable {router : Router σ} {substitutes : Nat → Option (Handler σ)} {request : Request}
  {route : Route σ} {i : Nat}

/-! ## One request -/

theorem answers_substituted {substitute : Option (Handler σ)} :
    (router.substituted substitutes).Answers request (route.substituted substitute) ↔
      router.Answers request route := by
  cases substitute <;> exact Iff.rfl

/-- The same route is selected. -/
theorem isFirst_substituted (substitutes : Nat → Option (Handler σ))
    (h : IsFirst (router.Answers request) router.routes i route) :
    IsFirst ((router.substituted substitutes).Answers request)
      (router.substituted substitutes).routes i (route.substituted (substitutes i)) :=
  h.mapIdx fun _ _ => answers_substituted

theorem handle_substituted_of_forall_not
    (h : ∀ route ∈ router.routes, ¬ router.Answers request route) (state : σ) :
    (router.substituted substitutes).handle request state = router.handle request state := by
  rw [handle_of_forall_not h,
    handle_of_forall_not (forall_not_mapIdx (fun _ _ => answers_substituted) h)]

/-- A request that is left to the handler of its route is answered as before. -/
theorem handle_substituted_of_none (h : IsFirst (router.Answers request) router.routes i route)
    (hnone : substitutes i = none) (state : σ) :
    (router.substituted substitutes).handle request state = router.handle request state := by
  obtain ⟨captures, hcaptures⟩ := captures_of_isFirst h
  have h' := isFirst_substituted substitutes h
  rw [hnone] at h'
  rw [handle_of_isFirst h hcaptures, handle_of_isFirst h' hcaptures]
  rfl

/-- A request that goes to a substitute ends with the same parameters and in the same state, and it
is answered. -/
theorem handle_substituted_of_some {substitute : Handler σ}
    (h : IsFirst (router.Answers request) router.routes i route)
    (hsome : substitutes i = some substitute) (hstands : substitute.StandsInFor route.handler)
    {captures : List (String × String)}
    (hcaptures : route.pattern.captures request.path = some captures) (state : σ) :
    ∃ response, (substitute (router.handle request state).request state).1 = .ok response ∧
      (router.substituted substitutes).handle request state =
        { result := .ok (some
            { route := { route with handler := substitute }
              pathParams := Params.setAll [] captures
              response })
          request := (router.handle request state).request
          state := (router.handle request state).state } := by
  have h' := isFirst_substituted substitutes h
  rw [hsome] at h'
  rw [handle_of_isFirst h hcaptures, handle_of_isFirst h' hcaptures]
  obtain ⟨response, hresponse⟩ := hstands.answers (request.enriched captures) state
  refine ⟨response, hresponse, ?_⟩
  have hdispatch : (route.substituted (some substitute)).dispatch (request.enriched captures) state =
      (.ok response, (route.handler (request.enriched captures) state).2) := by
    show ((substitute (request.enriched captures) state).1.mapError _,
      (substitute (request.enriched captures) state).2) = _
    rw [hresponse, hstands.state]
    rfl
  rw [hdispatch]
  rfl

/-- Substitutes leave the request and the state as the handlers do. -/
theorem handle_substituted (h : router.Substitutes substitutes) (request : Request) (state : σ) :
    ((router.substituted substitutes).handle request state).request =
        (router.handle request state).request ∧
      ((router.substituted substitutes).handle request state).state =
        (router.handle request state).state := by
  rcases exists_isFirst_or (router.Answers request) router.routes with ⟨i, route, hfirst⟩ | hnone
  · cases hsubstitute : substitutes i with
    | none => rw [handle_substituted_of_none hfirst hsubstitute]; exact ⟨rfl, rfl⟩
    | some substitute =>
      obtain ⟨captures, hcaptures⟩ := captures_of_isFirst hfirst
      obtain ⟨response, -, hhandled⟩ := handle_substituted_of_some hfirst hsubstitute
        (h i route substitute hfirst.getElem? hsubstitute) hcaptures state
      rw [hhandled]
      exact ⟨rfl, rfl⟩
  · rw [handle_substituted_of_forall_not hnone]
    exact ⟨rfl, rfl⟩

/-- A request ends in an error exactly if the handler of the route that is selected breaks down over
it. -/
theorem result_handle_eq_error_iff {error : Error} {state : σ} :
    (router.handle request state).result = .error error ↔ ∃ i route breakdown,
      IsFirst (router.Answers request) router.routes i route ∧
        (route.handler (router.handle request state).request state).1 = .error breakdown ∧
        error = .notInvocable route.url breakdown.reason := by
  constructor
  · intro herror
    rcases exists_isFirst_or (router.Answers request) router.routes with ⟨i, route, h⟩ | h
    · have hresult := (answer_of_isFirst h state).2
      cases houtcome : (route.handler (router.handle request state).request state).1 with
      | error breakdown =>
        simp only [houtcome] at hresult
        exact ⟨i, route, breakdown, h, houtcome, Except.error.inj (herror.symm.trans hresult)⟩
      | ok response =>
        simp only [houtcome] at hresult
        obtain ⟨answer, hanswer, -⟩ := hresult
        exact absurd (herror.symm.trans hanswer) (by simp)
    · rw [handle_of_forall_not h] at herror
      exact absurd herror (by simp)
  · rintro ⟨i, route, breakdown, h, houtcome, rfl⟩
    have hresult := (answer_of_isFirst h state).2
    simp only [houtcome] at hresult
    exact hresult

/-- If all handlers that may break down are replaced, every handler always answers. -/
theorem answers_of_substituted (h : router.Substitutes substitutes)
    (hall : ∀ j route, router.routes[j]? = some route → route.handler.MayBreakDown →
      substitutes j ≠ none)
    (hroute : (router.substituted substitutes).routes[i]? = some route) (request : Request)
    (state : σ) : ∃ response, (route.handler request state).1 = .ok response := by
  change (router.routes.mapIdx fun i route => route.substituted (substitutes i))[i]? = _ at hroute
  rw [List.getElem?_mapIdx, Option.map_eq_some_iff] at hroute
  obtain ⟨plain, hplain, rfl⟩ := hroute
  cases hsubstitute : substitutes i with
  | none =>
    have hcalm : ¬ plain.handler.MayBreakDown := fun hmay => hall i plain hplain hmay hsubstitute
    exact Handler.exists_ok_of_not_mayBreakDown hcalm request state
  | some substitute => exact (h i plain substitute hplain hsubstitute).answers request state

/-! ## Runs -/

/-- The requests of a run are answered one after the other, each in the state that the ones before it
have left. -/
theorem getElem?_handleAll (router : Router σ) (requests : List Request) (state : σ) (i : Nat) :
    (router.handleAll requests state).1[i]? = requests[i]?.map fun request =>
      router.handle request (router.handleAll (requests.take i) state).2 := by
  induction requests generalizing state i with
  | nil => simp [handleAll]
  | cons request requests ih =>
    cases i with
    | zero => rfl
    | succ i =>
      rw [List.take_succ_cons]
      simp only [handleAll, List.getElem?_cons_succ]
      exact ih (router.handle request state).state i

/-- Substitutes leave the same state in a whole run. -/
theorem state_handleAll_substituted (h : router.Substitutes substitutes) (requests : List Request)
    (state : σ) :
    ((router.substituted substitutes).handleAll requests state).2 =
      (router.handleAll requests state).2 := by
  induction requests generalizing state with
  | nil => rfl
  | cons request requests ih =>
    simp only [handleAll]
    rw [(handle_substituted h request state).2, ih]

/-- Keeping a journal and putting substitutes in commute. -/
theorem journaled_substituted (router : Router σ) (substitutes : Nat → Option (Handler σ)) :
    (router.substituted substitutes).journaled =
      router.journaled.substituted fun i => (substitutes i).map (Handler.journaled i) := by
  have hroute : ∀ (i : Nat) (route : Route σ), (route.substituted (substitutes i)).journaled i =
      (route.journaled i).substituted ((substitutes i).map (Handler.journaled i)) := by
    intro i route
    cases substitutes i <;> rfl
  have hroutes : (router.substituted substitutes).journaled.routes =
      (router.journaled.substituted fun i => (substitutes i).map (Handler.journaled i)).routes := by
    show (router.routes.mapIdx _).mapIdx _ = (router.routes.mapIdx _).mapIdx _
    rw [List.mapIdx_mapIdx, List.mapIdx_mapIdx]
    exact congrArg (router.routes.mapIdx ·) (funext fun i => funext (hroute i))
  exact congrArg (fun routes => ({ table := ⟨routes⟩, config := router.config } : Router _)) hroutes

theorem Substitutes.journaled (h : router.Substitutes substitutes) :
    router.journaled.Substitutes fun i => (substitutes i).map (Handler.journaled i) := by
  intro i route substitute hroute hsubstitute
  change (router.routes.mapIdx Route.journaled)[i]? = some route at hroute
  rw [List.getElem?_mapIdx, Option.map_eq_some_iff] at hroute
  obtain ⟨plain, hplain, rfl⟩ := hroute
  obtain ⟨plainSubstitute, hplainSubstitute, rfl⟩ := Option.map_eq_some_iff.mp hsubstitute
  exact (h i plain plainSubstitute hplain hplainSubstitute).journaled i

/-- In every run a request ends in an error exactly if the handler of the route that is selected for
it breaks down over it; the error then tells the template of this route and the text that the handler
has left behind, or that there was none. Handlers can be replaced by others that always answer and
leave the same state. The run then goes through the same states and calls the handlers of the same
routes with the same requests. A request for which no route with another handler is selected ends as
before in every respect. One for which such a route is selected ends with the same parameters, and
its answer is that of the substitute. If all handlers that may break down are replaced, no request
ends in an error. -/
theorem contains_breakdowns (router : Router σ) (requests : List Request) (state : σ) :
    (∀ i request, requests[i]? = some request →
      let before := (router.handleAll (requests.take i) state).2
      let handled := router.handle request before
      (router.handleAll requests state).1[i]? = some handled ∧
      ∀ error, handled.result = .error error ↔ ∃ j route breakdown,
        IsFirst (router.Answers request) router.routes j route ∧
        (route.handler handled.request before).1 = .error breakdown ∧
        error = .notInvocable route.url (breakdown.text.getD "handler panicked")) ∧
    ∀ substitutes, router.Substitutes substitutes →
      let calm := router.substituted substitutes
      (∀ i, (calm.handleAll (requests.take i) state).2 =
        (router.handleAll (requests.take i) state).2) ∧
      (∀ journal, (calm.journaled.handleAll requests journal).2 =
        (router.journaled.handleAll requests journal).2) ∧
      ∀ i request, requests[i]? = some request →
        let before := (router.handleAll (requests.take i) state).2
        let handled := router.handle request before
        ∃ handled', (calm.handleAll requests state).1[i]? = some handled' ∧
          handled'.request = handled.request ∧ handled'.state = handled.state ∧
          ((∀ j route, IsFirst (router.Answers request) router.routes j route →
            substitutes j = none) → handled' = handled) ∧
          (∀ j route substitute, IsFirst (router.Answers request) router.routes j route →
            substitutes j = some substitute → ∃ captures response,
              route.pattern.captures request.path = some captures ∧
              (substitute handled.request before).1 = .ok response ∧
              handled'.result = .ok (some
                { route := { route with handler := substitute }
                  pathParams := Params.setAll [] captures
                  response })) ∧
          ((∀ j route, router.routes[j]? = some route → route.handler.MayBreakDown →
            substitutes j ≠ none) → ∃ answer, handled'.result = .ok answer) := by
  refine ⟨fun i request hrequest => ⟨?_, fun error => result_handle_eq_error_iff⟩,
    fun substitutes hsubstitutes => ⟨fun i => ?_, fun journal => ?_, fun i request hrequest => ?_⟩⟩
  · rw [getElem?_handleAll, hrequest, Option.map_some]
  · exact state_handleAll_substituted hsubstitutes _ state
  · rw [journaled_substituted]
    exact state_handleAll_substituted hsubstitutes.journaled requests journal
  · intro before handled
    refine ⟨(router.substituted substitutes).handle request before, ?_,
      (handle_substituted hsubstitutes request before).1,
      (handle_substituted hsubstitutes request before).2, fun hnone => ?_,
      fun j route substitute hfirst hsome => ?_, fun hall => ?_⟩
    · rw [getElem?_handleAll, hrequest, Option.map_some,
        state_handleAll_substituted hsubstitutes]
    · rcases exists_isFirst_or (router.Answers request) router.routes with ⟨j, route, h⟩ | h
      · exact handle_substituted_of_none h (hnone j route h) before
      · exact handle_substituted_of_forall_not h before
    · obtain ⟨captures, hcaptures⟩ := captures_of_isFirst hfirst
      obtain ⟨response, hresponse, hhandled⟩ := handle_substituted_of_some hfirst hsome
        (hsubstitutes j route substitute hfirst.getElem? hsome) hcaptures before
      exact ⟨captures, response, hcaptures, hresponse, congrArg Handled.result hhandled⟩
    · cases hresult : ((router.substituted substitutes).handle request before).result with
      | ok answer => exact ⟨answer, rfl⟩
      | error error =>
        -- the handler of some route has broken down, but every handler left always answers
        obtain ⟨j, calm, breakdown, hfirst, houtcome, -⟩ := result_handle_eq_error_iff.mp hresult
        obtain ⟨response, hresponse⟩ := answers_of_substituted hsubstitutes hall hfirst.getElem? _ _
        rw [hresponse] at houtcome
        exact absurd houtcome (by simp)

/-- A handler that breaks down is replaced by one that also counts its calls. The count that the
other route gives afterwards is the same. -/
theorem contains_breakdowns_count :
    let router : Router Nat := (create {}).declareAll
      [.direct "/boom/[s:x]" (StockHandler.breakdown none).toHandler none none,
        .direct "/count" StockHandler.count.toHandler none none]
    let substitutes : Nat → Option (Handler Nat) := fun i =>
      if i = 0 then some (StockHandler.const 204 .null).toHandler else none
    let requests : List Request := [⟨"GET", "/boom/a", []⟩, ⟨"GET", "/count", []⟩]
    router.Substitutes substitutes ∧ requests[1]? = some ⟨"GET", "/count", []⟩ ∧
      (router.handleAll requests 0).2 = 2 ∧
      ((router.substituted substitutes).handleAll requests 0).1[1]? =
        (router.handleAll requests 0).1[1]? := by
  intro router substitutes requests
  have hsubstitutes : router.Substitutes substitutes := by
    intro i route substitute hroute hsubstitute
    obtain ⟨-, hsome⟩ := Option.ite_none_right_eq_some.mp hsubstitute
    obtain rfl := Option.some.inj hsome
    have hmem := List.mem_of_getElem? hroute
    rw [((create {}).routes_declareAll _).2] at hmem
    obtain ⟨registration, hregistration, hdeclared⟩ := List.mem_filterMap.mp hmem
    have hhandler := (Registration.route?_eq_some_iff.mp hdeclared).handler
    -- every handler of the collection counts its calls in the same way
    rcases List.mem_pair.mp hregistration with rfl | rfl
    · rw [← Option.some.inj hhandler]
      exact ⟨fun _ _ => ⟨_, rfl⟩, fun _ _ => rfl⟩
    · rw [← Option.some.inj hhandler]
      exact ⟨fun _ _ => ⟨_, rfl⟩, fun _ _ => rfl⟩
  refine ⟨hsubstitutes, rfl, by decide +kernel, ?_⟩
  obtain ⟨herrors, hcalm⟩ := router.contains_breakdowns requests 0
  obtain ⟨handled', hhandled', -, -, hsame, -⟩ := (hcalm substitutes hsubstitutes).2.2 1 _ rfl
  rw [hhandled', (herrors 1 _ rfl).1, hsame fun j route hfirst => ?_]
  cases j with
  | zero =>
    have hmatch : router.routes[0]?.map (·.pattern.isMatch "/count") = some false := by decide +kernel
    rw [hfirst.getElem?, Option.map_some] at hmatch
    exact absurd hfirst.holds.2 (by simpa using hmatch)
  | succ j => rfl

end Router

end Routing
