import Routing.Proofs.Registration

/-!
# Proofs: priority

What the order of the routes is good for. Routes that are put behind others answer what the others
leave, and two neighbours may change places for every request that one of them does not take.
-/

namespace Routing

variable {σ : Type}

namespace Router

/-- The router with other routes. -/
def withRoutes (router : Router σ) (routes : List (Route σ)) : Router σ :=
  { router with table := ⟨routes⟩ }

variable {router : Router σ} {request : Request}

/-- A request that the earlier routes leave is left to the later ones. -/
theorem select?_append (router : Router σ) (request : Request) (earlier later : List (Route σ)) :
    (router.withRoutes (earlier ++ later)).select? request =
      ((router.withRoutes earlier).select? request).or
        ((router.withRoutes later).select? request) := by
  rw [select?_eq_findSome?, select?_eq_findSome?, select?_eq_findSome?]
  exact List.findSome?_append

theorem isSome_select?_iff :
    (router.select? request).isSome = true ↔ ∃ route ∈ router.routes, router.Answers request route := by
  rw [answers_eq, select?_eq_hit]
  rcases exists_isFirst_or (Route.Answers (router.admits request) request.path) router.routes with
    ⟨i, route, h⟩ | h
  · obtain ⟨captures, -, hsearch⟩ := router.table.search_of_isFirst h
    rw [hsearch]
    exact iff_of_true rfl ⟨route, List.mem_of_getElem? h.getElem?, h.holds⟩
  · rw [router.table.search_of_forall_not h]
    exact iff_of_false (by simp) (by simpa using h)

theorem select?_eq_none (h : ∀ route ∈ router.routes, ¬ router.Answers request route) :
    router.select? request = none := by
  rw [← Option.not_isSome_iff_eq_none, isSome_select?_iff]
  simpa using h

/-- Two neighbours of which one does not answer can change places. -/
theorem select?_swap {first second : Route σ}
    (h : ¬ (router.Answers request first ∧ router.Answers request second))
    (front back : List (Route σ)) :
    (router.withRoutes (front ++ second :: first :: back)).select? request =
      (router.withRoutes (front ++ first :: second :: back)).select? request := by
  have hsplit : ∀ one other : Route σ,
      (router.withRoutes (front ++ one :: other :: back)).select? request =
        ((router.withRoutes front).select? request).or
          (((router.withRoutes [one]).select? request).or
            (((router.withRoutes [other]).select? request).or
              ((router.withRoutes back).select? request))) := by
    intro one other
    have happend : front ++ one :: other :: back = front ++ ([one] ++ ([other] ++ back)) := rfl
    rw [happend, select?_append, select?_append, select?_append]
  have hleft : ∀ route : Route σ, ¬ router.Answers request route →
      (router.withRoutes [route]).select? request = none := fun route hroute =>
    select?_eq_none (List.forall_mem_singleton.mpr hroute)
  rw [hsplit second first, hsplit first second]
  rcases not_and_or.mp h with h | h
  · rw [hleft first h, Option.none_or, Option.none_or]
  · rw [hleft second h, Option.none_or, Option.none_or]

theorem declareAll_eq_withRoutes (router : Router σ) (registrations : List (Registration σ)) :
    router.declareAll registrations =
      router.withRoutes (router.routes ++ registrations.filterMap Registration.route?) := by
  obtain ⟨hconfig, hroutes⟩ := router.routes_declareAll registrations
  have heta : router.declareAll registrations =
      { table := ⟨(router.declareAll registrations).routes⟩
        config := (router.declareAll registrations).config } := rfl
  rw [heta, hconfig, hroutes, withRoutes]

/-- Further declarations change nothing for a request that some route may answer and for a name that
some route bears. Any other request and any other name is left to the new routes: it is answered, or
the name is found, as if there were no others, and so by the first of them that may do so. And two
neighbours that change places change the answer to no request that one of them may not answer. -/
theorem handle_declareAll_swap (router : Router σ) (request : Request) (state : σ) :
    (∀ registrations : List (Registration σ),
      let after := router.declareAll registrations
      let added := router.withRoutes (registrations.filterMap Registration.route?)
      ((∃ route ∈ router.routes, router.Answers request route) →
        after.handle request state = router.handle request state) ∧
      ((∀ route ∈ router.routes, ¬ router.Answers request route) →
        after.handle request state = added.handle request state ∧
          ∀ i route, IsFirst (router.Answers request) added.routes i route →
            (∃ answer, (after.handle request state).result = .ok (some answer) ∧
              answer.route = route) ∨
            ∃ reason, (after.handle request state).result =
              .error (.notInvocable route.url reason)) ∧
      ∀ name, after.routeByName? name = (router.routeByName? name).or (added.routeByName? name)) ∧
    ∀ front first second back, router.routes = front ++ first :: second :: back →
      router.Answers request first ∧ router.Answers request second ∨
        (router.withRoutes (front ++ second :: first :: back)).handle request state =
          router.handle request state := by
  refine ⟨fun registrations => ?_, fun front first second back hroutes => ?_⟩
  · intro after added
    have hafter : after = router.withRoutes (router.routes ++ added.routes) :=
      router.declareAll_eq_withRoutes registrations
    have hselect : after.select? request = (router.select? request).or (added.select? request) := by
      rw [hafter]
      exact router.select?_append request router.routes added.routes
    refine ⟨fun hsome => handle_congr ?_ state, fun hnone => ?_, fun name => ?_⟩
    · obtain ⟨hit, hhit⟩ := Option.isSome_iff_exists.mp (isSome_select?_iff.mpr hsome)
      rw [hselect, hhit, Option.some_or]
    · have hadded : after.handle request state = added.handle request state := by
        refine handle_congr ?_ state
        rw [hselect, select?_eq_none hnone, Option.none_or]
      refine ⟨hadded, fun i route hfirst => ?_⟩
      rw [hadded]
      exact result_handle_of_isFirst hfirst state
    · rw [hafter]
      exact List.find?_append
  · rw [or_iff_not_imp_left]
    intro hrivals
    refine handle_congr ?_ state
    have hswap := select?_swap hrivals front back
    rw [← hroutes] at hswap
    exact hswap

end Router

end Routing
