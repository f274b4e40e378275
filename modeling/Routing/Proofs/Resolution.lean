import Mathlib.Data.Finset.Card
import Routing.Proofs.ByteOrder
import Routing.Proofs.Registration

/-!
# Proofs: named handlers

The name of a handler is resolved once, when a route is declared with it. Whatever is registered
afterwards, the route keeps the handler that stood last under the name at that moment. The registry
itself knows, at every moment, exactly the names under which something has been registered.
-/

namespace Routing

variable {σ : Type}

/-! ## The names of a registry -/

namespace Registry

variable {registry : Registry σ} {name other : String} {handler : Handler σ}

theorem mem_names_register :
    other ∈ (registry.register name handler).names ↔ other = name ∨ other ∈ registry.names := by
  obtain ⟨entries⟩ := registry
  simp only [register, names]
  induction entries with
  | nil => simp [insertEntry]
  | cons entry entries ih =>
    obtain ⟨n, h⟩ := entry
    by_cases hn : name = n
    · subst hn
      simp [insertEntry]
    · by_cases hlt : name < n
      · simp [insertEntry, hn, hlt]
      · simp only [insertEntry, if_neg hn, if_neg hlt, List.map_cons, List.mem_cons, ih]
        tauto

/-- Registering keeps the names in ascending order, each once. -/
theorem pairwise_names_register (h : registry.names.Pairwise (· < ·)) :
    (registry.register name handler).names.Pairwise (· < ·) := by
  obtain ⟨entries⟩ := registry
  induction entries with
  | nil => simp [register, names, insertEntry]
  | cons entry entries ih =>
    obtain ⟨n, h'⟩ := entry
    obtain ⟨hn, hentries⟩ := List.pairwise_cons.mp h
    by_cases hname : name = n
    · subst hname
      simpa [register, names, insertEntry] using h
    · by_cases hlt : name < n
      · have hsmaller : ∀ m ∈ n :: entries.map (·.1), name < m := by
          intro m hm
          rcases List.mem_cons.mp hm with rfl | hm
          · exact hlt
          · exact String.lt_trans hlt (hn m hm)
        simp only [register, names, insertEntry, if_neg hname, if_pos hlt, List.map_cons]
        exact List.pairwise_cons.mpr ⟨hsmaller, h⟩
      · have hlater : n < name := by
          rcases Std.lt_trichotomy name n with h | h | h
          · exact absurd h hlt
          · exact absurd h hname
          · exact h
        simp only [register, names, insertEntry, if_neg hname, if_neg hlt, List.map_cons]
        refine List.pairwise_cons.mpr ⟨fun m hm => ?_, ih hentries⟩
        rcases mem_names_register.mp hm with rfl | hm
        · exact hlater
        · exact hn m hm

theorem isSome_get?_iff : (registry.get? name).isSome = true ↔ name ∈ registry.names := by
  unfold get? names
  rw [Option.isSome_map, List.find?_isSome, List.mem_map]
  simp

theorem contains_iff : registry.contains name = true ↔ name ∈ registry.names := by
  unfold contains names
  rw [List.any_eq_true, List.mem_map]
  simp

end Registry

/-! ## Histories of a registry and a router -/

/-- A registry and a router, with the state of the handlers. -/
structure Setup (σ : Type) where
  /-- The handlers that can be named. -/
  registry : Registry σ
  /-- The router. -/
  router : Router σ
  /-- The state of the handlers. -/
  state : σ

/-- What can happen to a registry and a router. -/
inductive Setup.Event (σ : Type) where
  /-- A handler is registered under a name. -/
  | register (name : String) (handler : Handler σ)
  /-- A route is declared with the name of its handler. -/
  | declareNamed (url handlerName : String) (method name : Option String)
  /-- A route is declared with its handler. -/
  | declare (url : String) (handler : Handler σ) (method name : Option String)
  /-- A request is answered. -/
  | request (request : Request)

namespace Setup

/-- What an event leaves. A declaration that fails leaves everything as it is. -/
def step (setup : Setup σ) : Event σ → Setup σ
  | .register name handler => { setup with registry := setup.registry.register name handler }
  | .declareNamed url handlerName method name =>
    { setup with
      router := (setup.router.addNamedRoute url handlerName method name
        setup.registry).toOption.getD setup.router }
  | .declare url handler method name =>
    { setup with
      router := (setup.router.addRoute url handler method name).toOption.getD setup.router }
  | .request request => { setup with state := (setup.router.handle request setup.state).state }

/-- What a history leaves. -/
def run (setup : Setup σ) (events : List (Event σ)) : Setup σ :=
  events.foldl step setup

/-- The name under which an event registers a handler. -/
def Event.registeredName? : Event σ → Option String
  | .register name _ => some name
  | _ => none

/-- The names under which handlers are registered in a history, as often as they are. -/
def registeredNames (events : List (Event σ)) : List String :=
  events.filterMap Event.registeredName?

/-- The handler is the one that is registered last under the name. -/
def IsLatest (events : List (Event σ)) (name : String) (handler : Handler σ) : Prop :=
  ∃ earlier later, events = earlier ++ .register name handler :: later ∧
    name ∉ registeredNames later

variable {setup : Setup σ} {events : List (Event σ)} {event : Event σ} {name other : String}
  {handler latest : Handler σ}

theorem run_append (setup : Setup σ) (events later : List (Event σ)) :
    setup.run (events ++ later) = (setup.run events).run later :=
  List.foldl_append

theorem run_concat (setup : Setup σ) (events : List (Event σ)) (event : Event σ) :
    setup.run (events ++ [event]) = (setup.run events).step event :=
  List.foldl_append

/-! ### The registry -/

theorem mem_registeredNames_concat :
    name ∈ registeredNames (events ++ [event]) ↔
      name ∈ registeredNames events ∨ event.registeredName? = some name := by
  simp [registeredNames]

/-- The last event decides unless it registers nothing under the name. -/
theorem isLatest_concat :
    IsLatest (events ++ [event]) name latest ↔ event = .register name latest ∨
      event.registeredName? ≠ some name ∧ IsLatest events name latest := by
  constructor
  · rintro ⟨earlier, later, heq, hlater⟩
    rcases List.eq_nil_or_concat' later with rfl | ⟨front, last, rfl⟩
    · obtain ⟨-, hlast⟩ := List.append_inj' heq rfl
      exact Or.inl (List.cons.inj hlast).1
    · rw [← List.cons_append, ← List.append_assoc] at heq
      obtain ⟨rfl, hlast⟩ := List.append_inj' heq rfl
      obtain rfl := (List.cons.inj hlast).1
      rw [mem_registeredNames_concat, not_or] at hlater
      exact Or.inr ⟨hlater.2, earlier, front, rfl, hlater.1⟩
  · rintro (rfl | ⟨hevent, earlier, later, rfl, hlater⟩)
    · exact ⟨events, [], rfl, by simp [registeredNames]⟩
    · refine ⟨earlier, later ++ [event], by simp, ?_⟩
      rw [mem_registeredNames_concat, not_or]
      exact ⟨hlater, hevent⟩

/-- Each name stands for the handler that was registered last under it. -/
theorem get?_run (hempty : setup.registry = .empty) :
    (setup.run events).registry.get? name = some latest ↔ IsLatest events name latest := by
  induction events using List.reverseRecOn with
  | nil =>
    have hnone : (setup.run []).registry.get? name = none := by
      rw [show setup.run [] = setup from rfl, hempty, Registry.get?_empty]
    refine iff_of_false (by simp [hnone]) ?_
    rintro ⟨earlier, later, h, -⟩
    simp at h
  | append_singleton events event ih =>
    rw [run_concat, isLatest_concat]
    cases event with
    | register other handler =>
      have hget := Registry.get?_register (setup.run events).registry other name handler
      rw [show ((setup.run events).step (.register other handler)).registry =
        (setup.run events).registry.register other handler from rfl, hget]
      by_cases hname : other = name
      · simp [hname, Event.registeredName?]
      · simp [hname, Event.registeredName?, ih]
    | declareNamed | declare | request => simpa [step, Event.registeredName?] using ih

theorem mem_names_run (hempty : setup.registry = .empty) :
    name ∈ (setup.run events).registry.names ↔ name ∈ registeredNames events := by
  induction events using List.reverseRecOn with
  | nil =>
    rw [show setup.run [] = setup from rfl, hempty]
    simp [Registry.names, Registry.empty, registeredNames]
  | append_singleton events event ih =>
    rw [run_concat, mem_registeredNames_concat, ← ih]
    cases event with
    | register other handler =>
      rw [show ((setup.run events).step (.register other handler)).registry =
        (setup.run events).registry.register other handler from rfl, Registry.mem_names_register]
      simp [Event.registeredName?, or_comm, eq_comm]
    | declareNamed | declare | request => simp [step, Event.registeredName?]

theorem pairwise_names_run (hempty : setup.registry = .empty) :
    (setup.run events).registry.names.Pairwise (· < ·) := by
  induction events using List.reverseRecOn with
  | nil =>
    rw [show setup.run [] = setup from rfl, hempty]
    exact .nil
  | append_singleton events event ih =>
    rw [run_concat]
    cases event with
    | register other handler => exact Registry.pairwise_names_register ih
    | declareNamed | declare | request => exact ih

/-- The registry counts names without repeats. -/
theorem size_run (hempty : setup.registry = .empty) :
    (setup.run events).registry.size = (registeredNames events).toFinset.card := by
  have hnodup : (setup.run events).registry.names.Nodup :=
    (pairwise_names_run hempty).imp String.ne_of_lt
  have hsame : (setup.run events).registry.names.toFinset = (registeredNames events).toFinset := by
    ext name
    rw [List.mem_toFinset, List.mem_toFinset, mem_names_run hempty]
  rw [← hsame, List.toFinset_card_of_nodup hnodup]
  exact (List.length_map _).symm

/-! ### The routes -/

/-- No event removes, replaces or reorders routes. -/
theorem routes_prefix_step (setup : Setup σ) (event : Event σ) :
    setup.router.routes <+: (setup.step event).router.routes := by
  have hdeclare : ∀ registration : Registration σ, setup.router.routes <+:
      ((setup.router.declare registration).toOption.getD setup.router).routes := by
    intro registration
    rw [Router.declare_eq]
    cases registration.outcome with
    | error error => exact List.prefix_rfl
    | ok route => exact List.prefix_append setup.router.routes [route]
  cases event with
  | register | request => exact List.prefix_rfl
  | declareNamed url handlerName method name =>
    exact hdeclare (.byName url handlerName method name setup.registry)
  | declare url handler method name => exact hdeclare (.direct url handler method name)

theorem routes_prefix_run (setup : Setup σ) (events : List (Event σ)) :
    setup.router.routes <+: (setup.run events).router.routes := by
  induction events using List.reverseRecOn with
  | nil => exact List.prefix_rfl
  | append_singleton events event ih =>
    rw [run_concat]
    exact ih.trans (routes_prefix_step _ _)

/-! ### Both together -/

theorem take_succ_eq_concat {i : Nat} (h : events[i]? = some event) :
    events.take (i + 1) = events.take i ++ [event] := by
  rw [List.take_add_one, h, Option.toList_some]

/-- A route stays where it has been put. -/
theorem getElem?_routes_run_of_le {i j index : Nat} {route : Route σ} (hij : i ≤ j)
    (h : (setup.run (events.take i)).router.routes[index]? = some route) :
    (setup.run (events.take j)).router.routes[index]? = some route := by
  have htake : (events.take j).take i = events.take i := by
    rw [List.take_take, Nat.min_eq_left hij]
  have hsplit : events.take j = events.take i ++ (events.take j).drop i := by
    rw [← htake, List.take_append_drop]
  obtain ⟨later, hlater⟩ :=
    (setup.run (events.take i)).routes_prefix_run ((events.take j).drop i)
  have hindex := (List.getElem?_eq_some_iff.mp h).1
  rw [hsplit, run_append, ← hlater, List.getElem?_append_left hindex, h]

/-- What declaring a route with the name of its handler does: there is no handler of the name, the
declaration fails for another reason, or the route is put behind the others, with the handler for
which the name stands. -/
theorem declareNamed_cases (setup : Setup σ) (url handlerName : String)
    (method name : Option String) :
    let outcome := setup.router.addNamedRoute url handlerName method name setup.registry
    let later := setup.step (.declareNamed url handlerName method name)
    (setup.registry.get? handlerName = none ∧ outcome = .error (.invalidHandler handlerName) ∧
        later = setup) ∨
      (∃ handler error, setup.registry.get? handlerName = some handler ∧ outcome = .error error ∧
        error ≠ .invalidHandler handlerName ∧ later = setup) ∨
      ∃ route, setup.registry.get? handlerName = some route.handler ∧ route.url = url ∧
        route.name = name ∧ outcome = .ok later.router ∧
        later.router.routes = setup.router.routes ++ [route] := by
  intro outcome later
  have houtcome : outcome =
      (Registration.byName url handlerName method name setup.registry).outcome.map fun route =>
        { setup.router with table := setup.router.table.push route } :=
    setup.router.declare_eq (.byName url handlerName method name setup.registry)
  have hlater : later = { setup with router := outcome.toOption.getD setup.router } := rfl
  rcases (Registration.byName url handlerName method name setup.registry).outcome_cases with
    ⟨route, hroute, hok⟩ | ⟨error, hrefused, herror⟩
  · rw [hok] at houtcome
    rw [houtcome] at hlater
    rw [houtcome, hlater]
    exact Or.inr (Or.inr ⟨route, hroute.handler, hroute.url, hroute.name, rfl, rfl⟩)
  · rw [herror] at houtcome
    rw [houtcome] at hlater
    rw [houtcome, hlater]
    cases hrefused with
    | handler hnone => exact Or.inl ⟨hnone, rfl, rfl⟩
    | template hhandler => exact Or.inr (Or.inl ⟨_, _, hhandler, rfl, by simp, rfl⟩)
    | method hhandler => exact Or.inr (Or.inl ⟨_, _, hhandler, rfl, by simp, rfl⟩)

/-- A route that is declared with the name of its handler always calls the handler that was
registered last under the name at that moment, whatever is registered, declared or requested
afterwards. The declaration fails for want of a handler exactly if there was none under the name, and
a declaration that fails changes nothing. At every moment the registry finds exactly the names under
which something has been registered, each with its last handler; it counts them without repeats and
shows each once, in the order of bytes. -/
theorem handlers_resolve_once (start : Router σ) (state : σ) (events : List (Event σ)) :
    let after (i : Nat) : Setup σ := run ⟨.empty, start, state⟩ (events.take i)
    (∀ i,
      let registry := (after i).registry
      let registered := registeredNames (events.take i)
      (∀ name handler,
        registry.get? name = some handler ↔ IsLatest (events.take i) name handler) ∧
      (∀ name, ((registry.get? name).isSome = true ↔ name ∈ registered) ∧
        (registry.contains name = true ↔ name ∈ registered)) ∧
      registry.size = registered.toFinset.card ∧
      ∃ names, registry.describe =
          "HandlerRegistry \x7b handlers: " ++ Text.quotedList names ++ " \x7d" ∧
        names.Pairwise (fun m n => Text.Utf8.encode m.toList < Text.Utf8.encode n.toList) ∧
        ∀ name, name ∈ names ↔ name ∈ registered) ∧
    ∀ i url handlerName method name,
      events[i]? = some (.declareNamed url handlerName method name) →
      let before := after i
      let outcome := before.router.addNamedRoute url handlerName method name before.registry
      (outcome = .error (.invalidHandler handlerName) ↔
        handlerName ∉ registeredNames (events.take i)) ∧
      (∀ error, outcome = .error error → after (i + 1) = before) ∧
      ∀ router, outcome = .ok router → ∃ handler route,
        IsLatest (events.take i) handlerName handler ∧ route.handler = handler ∧
        route.url = url ∧ route.name = name ∧ (after (i + 1)).router = router ∧
        router.routes = before.router.routes ++ [route] ∧
        ∀ j, i < j →
          (after j).router.routes[before.router.routes.length]? = some route ∧
          ∀ request state, IsFirst ((after j).router.Answers request) (after j).router.routes
              before.router.routes.length route →
            let handled := (after j).router.handle request state
            handled.state = (handler handled.request state).2 ∧
              match (handler handled.request state).1 with
              | .ok response => ∃ answer, handled.result = .ok (some answer) ∧
                  answer.route = route ∧ answer.response = response
              | .error breakdown => handled.result = .error (.notInvocable url breakdown.reason) := by
  intro after
  refine ⟨fun i => ?_, fun i url handlerName method name hevent => ?_⟩
  · intro registry registered
    have hnames : ∀ name, name ∈ registry.names ↔ name ∈ registered :=
      fun name => mem_names_run rfl
    have hsorted : registry.names.Pairwise (· < ·) := pairwise_names_run rfl
    refine ⟨fun name handler => get?_run rfl, fun name => ⟨?_, ?_⟩, size_run rfl, registry.names,
      rfl, hsorted.imp Text.Utf8.encode_lt, hnames⟩
    · rw [Registry.isSome_get?_iff, hnames]
    · rw [Registry.contains_iff, hnames]
  · intro before outcome
    have hstep : after (i + 1) = before.step (.declareNamed url handlerName method name) := by
      show run _ (events.take (i + 1)) = _
      rw [take_succ_eq_concat hevent, run_concat]
    have hregistered : (before.registry.get? handlerName).isSome = true ↔
        handlerName ∈ registeredNames (events.take i) := by
      rw [Registry.isSome_get?_iff, mem_names_run rfl]
    rw [hstep, ← hregistered]
    rcases before.declareNamed_cases url handlerName method name with
      ⟨hnone, houtcome, hlater⟩ | ⟨handler, error, hsome, houtcome, hother, hlater⟩ |
        ⟨route, hsome, hurl, hname, houtcome, hroutes⟩
    · change outcome = _ at houtcome
      rw [houtcome]
      exact ⟨by simp [hnone], fun _ _ => hlater, fun _ h => by simp at h⟩
    · change outcome = _ at houtcome
      rw [houtcome]
      exact ⟨by simp [hsome, hother], fun _ _ => hlater, fun _ h => by simp at h⟩
    · change outcome = _ at houtcome
      rw [houtcome]
      refine ⟨by simp [hsome], fun _ h => by simp at h, fun router hrouter => ?_⟩
      obtain rfl := Except.ok.inj hrouter
      refine ⟨route.handler, route, (get?_run rfl).mp hsome, rfl, hurl, hname, rfl, hroutes,
        fun j hj => ⟨?_, fun request state h => ?_⟩⟩
      · refine getElem?_routes_run_of_le hj ?_
        show (after (i + 1)).router.routes[before.router.routes.length]? = some route
        rw [hstep, hroutes, List.getElem?_concat_length]
      · obtain ⟨hstate, hresult⟩ := Router.answer_of_isFirst h state
        rw [← hurl]
        exact ⟨hstate, hresult⟩

end Setup

end Routing
