import Mathlib.Data.List.Nodup
import Routing.Proofs.Dispatch

/-!
# Proofs: the parameters of a match

Two merges lie between a path and the parameters that a handler sees: the captured values are
collected under their names, and what has been collected is written into the request. In both of
them a key keeps the first of its places and takes the last of its values, so the two agree on every
key.
-/

namespace Routing

namespace Params

/-- The keys in order. -/
def keys (params : Params) : List String :=
  params.map (·.1)

variable {params : Params} {entries : List (String × String)} {key value : String}

@[simp] theorem keys_nil : keys [] = [] := rfl

@[simp] theorem keys_cons (entry : String × String) (params : Params) :
    keys (entry :: params) = entry.1 :: keys params := rfl

/-! ## Several keys set one after the other -/

theorem get?_append (params later : Params) (key : String) :
    get? (params ++ later) key = (get? params key).or (get? later key) := by
  unfold get?
  rw [List.find?_append]
  cases params.find? fun entry => entry.1 = key <;> rfl

theorem get?_eq_none_iff : get? params key = none ↔ key ∉ keys params := by
  induction params with
  | nil => simp
  | cons entry params ih =>
    obtain ⟨k, v⟩ := entry
    rw [get?_cons, keys_cons, List.mem_cons]
    by_cases h : k = key
    · simp [h]
    · simp [h, Ne.symm h, ih]

/-- A key has the value of its last entry or, without one, the value that it had. -/
theorem get?_setAll (params : Params) (entries : List (String × String)) (key : String) :
    get? (setAll params entries) key = (get? entries.reverse key).or (get? params key) := by
  induction entries generalizing params with
  | nil => rfl
  | cons entry entries ih =>
    obtain ⟨k, v⟩ := entry
    rw [setAll_cons, ih, get?_set, List.reverse_cons, get?_append, get?_cons, Option.or_assoc]
    by_cases h : k = key
    · simp [h]
    · simp [h]

/-- The keys keep their places, and the new ones follow in the order of their first entries. -/
theorem keys_setAll (params : Params) (entries : List (String × String)) :
    keys (setAll params entries) =
      keys params ++ ((keys entries).filter (· ∉ keys params)).eraseDups := by
  induction entries generalizing params with
  | nil => simp
  | cons entry entries ih =>
    obtain ⟨k, v⟩ := entry
    have hset : keys (set k v params) =
        if k ∈ keys params then keys params else keys params ++ [k] := keys_set params k v
    rw [setAll_cons, ih, hset, keys_cons]
    by_cases h : k ∈ keys params
    · rw [if_pos h, List.filter_cons_of_neg (by simpa using h)]
    · rw [if_neg h, List.filter_cons_of_pos (by simpa using h), List.eraseDups_cons,
        List.filter_filter, List.append_assoc, List.singleton_append]
      have hfilter : (keys entries).filter (· ∉ keys params ++ [k]) =
          (keys entries).filter fun other => !other == k && decide (other ∉ keys params) := by
        refine List.filter_congr fun other _ => ?_
        by_cases hk : other = k <;> by_cases ho : other ∈ keys params <;> simp [hk, ho, h]
      rw [hfilter]

theorem nodup_eraseDups (names : List String) : names.eraseDups.Nodup := by
  induction hn : names.length using Nat.strongRecOn generalizing names with
  | _ n ih =>
    subst hn
    cases names with
    | nil => simp
    | cons name names =>
      rw [List.eraseDups_cons, List.nodup_cons]
      have hlength := List.length_filter_le (fun other => !other == name) names
      exact ⟨by simp [List.mem_eraseDups], ih _ (by simp; omega) _ rfl⟩

theorem eraseDups_eq_self {names : List String} (h : names.Nodup) : names.eraseDups = names := by
  induction names with
  | nil => rfl
  | cons name names ih =>
    obtain ⟨hname, hnames⟩ := List.nodup_cons.mp h
    have hfilter : names.filter (fun other => !other == name) = names := by
      refine List.filter_eq_self.mpr fun other hother => ?_
      have hne : other ≠ name := by
        rintro rfl
        exact hname hother
      simpa using hne
    rw [List.eraseDups_cons, hfilter, ih hnames]

/-! ## Distinct keys -/

/-- Parameters with distinct keys are given by their keys in order and the value of each. -/
theorem eq_of_keys_eq {other : Params} (hnodup : (keys params).Nodup)
    (hkeys : keys other = keys params) (hvalues : ∀ key, get? other key = get? params key) :
    other = params := by
  induction params generalizing other with
  | nil => simpa [keys] using hkeys
  | cons entry params ih =>
    obtain ⟨k, v⟩ := entry
    rw [keys_cons, List.nodup_cons] at hnodup
    obtain ⟨hk, hlater⟩ := hnodup
    cases other with
    | nil => simp at hkeys
    | cons entry' other =>
      obtain ⟨k', v'⟩ := entry'
      rw [keys_cons, keys_cons, List.cons.injEq] at hkeys
      obtain ⟨rfl, hkeys⟩ := hkeys
      have hv : v' = v := by simpa [get?_cons] using hvalues k'
      have hother : other = params := by
        refine ih hlater hkeys fun key => ?_
        by_cases h : k' = key
        · -- the first key does not occur again on either side
          subst h
          rw [get?_eq_none_iff.mpr hk, get?_eq_none_iff.mpr (by rwa [hkeys])]
        · simpa [get?_cons, h] using hvalues key
      rw [hv, hother]

/-- The value of a key in reverse order is its value, if no key stands twice. -/
theorem get?_reverse (h : (keys params).Nodup) (key : String) :
    get? params.reverse key = get? params key := by
  induction params with
  | nil => rfl
  | cons entry params ih =>
    obtain ⟨k, v⟩ := entry
    obtain ⟨hk, hnodup⟩ := List.nodup_cons.mp h
    rw [List.reverse_cons, get?_append, ih hnodup, get?_cons, get?_cons]
    by_cases hkey : k = key
    · subst hkey
      rw [get?_eq_none_iff.mpr hk]
      rfl
    · simp [hkey]

/-- The parameters with the values of those keys that have one in `entries`. -/
def updated (params : Params) (entries : List (String × String)) : Params :=
  params.map fun entry => (entry.1, (get? entries entry.1).getD entry.2)

/-- The entries whose keys are new. -/
def added (params : Params) (entries : List (String × String)) : Params :=
  entries.filter fun entry => entry.1 ∉ keys params

theorem keys_updated (params : Params) (entries : List (String × String)) :
    keys (updated params entries) = keys params := by
  simp [keys, updated]

theorem keys_added (params : Params) (entries : List (String × String)) :
    keys (added params entries) = (keys entries).filter (· ∉ keys params) := by
  unfold added keys
  rw [List.filter_map]
  rfl

theorem get?_updated (params : Params) (entries : List (String × String)) (key : String) :
    get? (updated params entries) key =
      (get? params key).map fun v => (get? entries key).getD v := by
  induction params with
  | nil => rfl
  | cons entry params ih =>
    obtain ⟨k, v⟩ := entry
    have hcons : updated ((k, v) :: params) entries =
        (k, (get? entries k).getD v) :: updated params entries := rfl
    rw [hcons, get?_cons, get?_cons, ih]
    by_cases h : k = key
    · simp [h]
    · simp [h]

theorem get?_added (params : Params) (entries : List (String × String)) (key : String) :
    get? (added params entries) key = if key ∈ keys params then none else get? entries key := by
  induction entries with
  | nil => simp [added]
  | cons entry entries ih =>
    obtain ⟨k, v⟩ := entry
    by_cases hk : k ∈ keys params
    · have hcons : added params ((k, v) :: entries) = added params entries := by
        simp [added, hk]
      rw [hcons, ih, get?_cons]
      by_cases h : k = key
      · simp [← h, hk]
      · simp [h]
    · have hcons : added params ((k, v) :: entries) = (k, v) :: added params entries := by
        simp [added, hk]
      rw [hcons, get?_cons, get?_cons, ih]
      by_cases h : k = key
      · simp [← h, hk]
      · simp [h]

/-- With distinct keys on both sides, setting replaces values in their places and puts the new
entries behind. -/
theorem setAll_eq_updated_append_added (hparams : (keys params).Nodup)
    (hentries : (keys entries).Nodup) :
    setAll params entries = updated params entries ++ added params entries := by
  have hnew : ((keys entries).filter (· ∉ keys params)).Nodup := hentries.filter _
  have hkeys : keys (updated params entries ++ added params entries) =
      keys params ++ (keys entries).filter (· ∉ keys params) := by
    rw [← keys_added, ← keys_updated params entries, keys, List.map_append]
    rfl
  refine eq_of_keys_eq ?_ ?_ fun key => ?_
  · rw [hkeys]
    refine List.nodup_append.mpr ⟨hparams, hnew, ?_⟩
    rintro k hk _ hk' rfl
    simp [hk] at hk'
  · rw [keys_setAll, hkeys, eraseDups_eq_self hnew]
  · rw [get?_setAll, get?_reverse hentries, get?_append, get?_updated, get?_added]
    by_cases hkey : key ∈ keys params
    · obtain ⟨v, hv⟩ := Option.ne_none_iff_exists'.mp (mt get?_eq_none_iff.mp (not_not.mpr hkey))
      rw [if_pos hkey, hv]
      cases get? entries key <;> rfl
    · rw [if_neg hkey, get?_eq_none_iff.mpr hkey]
      cases get? entries key <;> rfl

/-! ## The two merges -/

/-- The parameters collect captured values: each name once, in the order of the first captures, with
the value of its last capture. -/
structure Collects (pathParams : Params) (captures : List (String × String)) : Prop where
  /-- The names in the order of their first captures. -/
  keys : pathParams.keys = (captures.map (·.1)).eraseDups
  /-- No name stands twice. -/
  distinct : pathParams.keys.Nodup
  /-- The value of a name is the one captured last. -/
  value : ∀ key, pathParams.get? key = get? captures.reverse key

theorem collects_setAll (captures : List (String × String)) :
    Collects (setAll [] captures) captures := by
  have hkeys : keys (setAll [] captures) = (captures.map (·.1)).eraseDups := by
    rw [keys_setAll, keys_nil, List.nil_append, List.filter_eq_self.mpr (by simp)]
    rfl
  refine ⟨hkeys, ?_, fun key => ?_⟩
  · rw [hkeys]
    exact nodup_eraseDups _
  · rw [get?_setAll, get?_nil, Option.or_none]

end Params

namespace Request

/-- The request `later` is the request with parameters written into it. -/
structure Takes (request : Request) (pathParams : Params) (later : Request) : Prop where
  /-- The method stays. -/
  method : later.method = request.method
  /-- The path stays. -/
  path : later.path = request.path
  /-- The keys keep their places, and those that are new follow in their order. -/
  keys : later.params.keys =
    request.params.keys ++ pathParams.keys.filter (· ∉ request.params.keys)
  /-- A key has the value written under it or, if there is none, the value that it had. -/
  value : ∀ key, later.param? key = (pathParams.get? key).or (request.param? key)
  /-- As the keys of a request are distinct, this leaves no choice: values are replaced in their
  places, the new entries follow, and there is nothing else. -/
  params : request.params.keys.Nodup → later.params.keys.Nodup ∧
    later.params = request.params.updated pathParams ++ request.params.added pathParams

variable {request : Request} {pathParams : Params}

theorem takes_withParams (request : Request) (hdistinct : pathParams.keys.Nodup) :
    request.Takes pathParams (request.withParams pathParams) where
  method := rfl
  path := rfl
  keys := by
    have hkeys := Params.keys_setAll request.params pathParams
    rw [Params.eraseDups_eq_self (hdistinct.filter _)] at hkeys
    exact hkeys
  value key := by
    have hvalue := Params.get?_setAll request.params pathParams key
    rw [Params.get?_reverse hdistinct] at hvalue
    exact hvalue
  params hrequest := by
    refine ⟨?_, Params.setAll_eq_updated_append_added hrequest hdistinct⟩
    show (Params.keys (request.params.setAll pathParams)).Nodup
    rw [Params.keys_setAll]
    refine List.nodup_append.mpr ⟨hrequest, Params.nodup_eraseDups _, ?_⟩
    rintro key hkey _ hnew rfl
    rw [List.mem_eraseDups] at hnew
    simp [hkey] at hnew

/-- What has been written can be read back. -/
theorem Takes.param?_of_mem {later : Request} (h : request.Takes pathParams later) {key : String}
    (hkey : key ∈ pathParams.keys) : later.param? key = pathParams.get? key := by
  obtain ⟨value, hvalue⟩ :=
    Option.ne_none_iff_exists'.mp (mt Params.get?_eq_none_iff.mp (not_not.mpr hkey))
  rw [h.value, hvalue]
  rfl

/-- Parameters that are added by force one after the other are never refused. -/
theorem foldlM_addParam_force (request : Request) (entries : List (String × String)) :
    entries.foldlM (fun request entry => request.addParam entry.1 entry.2 true) request =
      .ok (request.withParams entries) := by
  induction entries generalizing request with
  | nil => rfl
  | cons entry entries ih =>
    rw [List.foldlM_cons, addParam_force, withParams_cons]
    exact ih (request.withParam entry.1 entry.2)

end Request

/-! ## One request -/

namespace Router

variable {σ : Type}

/-- The handler of the route that is selected for a request is called with the request into which
the values captured from its path have been written, and the request stays so whether the handler
answers or breaks down. The values are collected under their names before; the answer tells what has
been collected, and reads every key of it as the request does. Writing is never refused, so the
breakdown of the handler is the only error. A request for which no route is selected stays as it
was. -/
theorem handle_enriches_request (router : Router σ) (request : Request) (journal : Journal σ) :
    let handled := router.handle request journal.state
    (∃ i route captures pathParams, IsFirst (router.Answers request) router.routes i route ∧
      route.pattern.captures request.path = some captures ∧
      Params.Collects pathParams captures ∧ request.Takes pathParams handled.request ∧
      pathParams.foldlM (fun request entry => request.addParam entry.1 entry.2 true) request =
        .ok handled.request ∧
      (router.journaled.handle request journal).state =
        { state := handled.state, calls := journal.calls ++ [(i, handled.request)] } ∧
      match (route.handler handled.request journal.state).1 with
      | .ok response => ∃ answer, handled.result = .ok (some answer) ∧ answer.route = route ∧
          answer.pathParams = pathParams ∧ answer.response = response ∧
          ∀ key ∈ pathParams.keys, answer.pathParam? key = handled.request.param? key
      | .error breakdown =>
          handled.result = .error (.notInvocable route.url breakdown.reason)) ∨
    (∀ route ∈ router.routes, ¬ router.Answers request route) ∧
      handled = { result := .ok none, request, state := journal.state } := by
  intro handled
  rcases exists_isFirst_or (router.Answers request) router.routes with ⟨i, route, h⟩ | h
  · obtain ⟨captures, hcaptures⟩ := captures_of_isFirst h
    have hhandled := handle_of_isFirst h hcaptures journal.state
    have hrequest : handled.request = request.enriched captures :=
      congrArg Handled.request hhandled
    have hcollects := Params.collects_setAll captures
    have htakes : request.Takes (Params.setAll [] captures) handled.request := by
      rw [hrequest]
      exact request.takes_withParams hcollects.distinct
    refine Or.inl ⟨i, route, captures, _, h, hcaptures, hcollects, htakes, ?_, ?_, ?_⟩
    · rw [hrequest]
      exact request.foldlM_addParam_force _
    · rw [← (router.handle_journaled request journal).2.2, ← calls_handle_of_isFirst h]
    · have hresult : handled.result =
          (route.dispatch handled.request journal.state).1.map fun response =>
            some { route, pathParams := Params.setAll [] captures, response } := by
        rw [hrequest]
        exact congrArg Handled.result hhandled
      unfold Route.dispatch at hresult
      cases houtcome : (route.handler handled.request journal.state).1 with
      | error breakdown =>
        simp only [houtcome] at hresult ⊢
        exact hresult
      | ok response =>
        simp only [houtcome] at hresult ⊢
        exact ⟨_, hresult, rfl, rfl, rfl, fun key hkey => (htakes.param?_of_mem hkey).symm⟩
  · exact Or.inr ⟨h, handle_of_forall_not h journal.state⟩

end Router

end Routing
