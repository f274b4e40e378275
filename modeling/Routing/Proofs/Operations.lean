import Routing.Proofs.Incoming

/-!
# Proofs: operations on requests

A request is built once and then gains parameters: some are added by hand, others are written by
routers on its way. Whatever the operations are, the request stays in normal form, and its parameters
are what a list of all that has been written says: the keys stand in the order in which they were
written first, each once, with the value that was written last.
-/

namespace Routing.Request

/-! ## Building a request -/

/-- How a request comes about. -/
inductive Origin where
  /-- From a method and a path. -/
  | parts (method path : String)
  /-- From a request as it comes in. -/
  | incoming (raw : RawRequest)

/-- The request, if there is nothing wrong with what it is built from. -/
def Origin.request : Origin → Except Error Request
  | .parts method path => ofParts method path
  | .incoming raw => raw.toRequest

/-- The parameters that are written when the request is built: those of the query, then those of the
body. -/
def Origin.written : Origin → List (String × String)
  | .parts _ _ => []
  | .incoming raw =>
    (((Target.ofText raw.target).toOption.bind Target.query).map Form.pairs).getD [] ++ raw.bodyPairs

theorem exists_of_request {origin : Origin} {request : Request} (h : origin.request = .ok request) :
    ∃ method path built, ofParts method path = .ok built ∧
      request = built.withParams origin.written := by
  cases origin with
  | parts method path => exact ⟨method, path, request, h, rfl⟩
  | incoming raw =>
    obtain ⟨target, htarget⟩ := RawRequest.exists_target_of_toRequest h
    obtain ⟨built, hbuilt, rfl⟩ := RawRequest.exists_ofParts_of_toRequest htarget h
    refine ⟨_, _, built, hbuilt, ?_⟩
    rw [Origin.written, htarget]
    rfl

/-! ## Operations -/

/-- What can be done with a request. -/
inductive Operation : Type 1 where
  /-- A parameter is added, by force or not. -/
  | add (key value : String) (force : Bool)
  /-- A parameter is set. -/
  | set (key value : String)
  /-- A router answers the request. -/
  | handle {σ : Type} (router : Router σ) (state : σ)

/-- The request afterwards. Adding a parameter that is refused leaves it as it is. -/
def Operation.apply (request : Request) : Operation → Request
  | .add key value force => (request.addParam key value force).toOption.getD request
  | .set key value => request.withParam key value
  | .handle router state => (router.handle request state).request

/-- The parameters that are written. A router writes what the selected route has captured, each name
once. -/
def Operation.written (request : Request) : Operation → List (String × String)
  | .add key value force => if (request.addParam key value force).isOk then [(key, value)] else []
  | .set key value => [(key, value)]
  | .handle router _ =>
    ((router.select? request).map fun hit => Params.setAll [] hit.captures).getD []

/-- The request after several operations. -/
def applyAll (request : Request) (operations : List Operation) : Request :=
  operations.foldl Operation.apply request

/-- The parameters that are written in several operations, in order. -/
def written : Request → List Operation → List (String × String)
  | _, [] => []
  | request, operation :: operations =>
    operation.written request ++ written (operation.apply request) operations

variable {request : Request} {key value : String}

theorem withParams_append (request : Request) (s t : List (String × String)) :
    request.withParams (s ++ t) = (request.withParams s).withParams t :=
  congrArg (fun params => { request with params }) (Params.setAll_append request.params s t)

/-- All that an operation does is to write parameters. -/
theorem apply_eq (request : Request) (operation : Operation) :
    operation.apply request = request.withParams (operation.written request) := by
  cases operation with
  | add key value force =>
    by_cases hrefused : (!force && (request.param? key).isSome) = true
    · simp only [Operation.apply, Operation.written, addParam, if_pos hrefused]
      rfl
    · simp only [Operation.apply, Operation.written, addParam, if_neg hrefused]
      rfl
  | set key value => rfl
  | handle router state =>
    simp only [Operation.apply, Operation.written, Router.handle]
    cases router.select? request <;> rfl

theorem applyAll_eq (request : Request) (operations : List Operation) :
    request.applyAll operations = request.withParams (request.written operations) := by
  induction operations generalizing request with
  | nil => rfl
  | cons operation operations ih =>
    have hcons : request.applyAll (operation :: operations) =
        (operation.apply request).applyAll operations := rfl
    rw [hcons, ih, written, withParams_append, ← apply_eq]

/-- Keys that are there stay in their places. -/
theorem keys_prefix_apply (request : Request) (operation : Operation) :
    request.params.keys <+: (operation.apply request).params.keys := by
  rw [apply_eq]
  show _ <+: Params.keys (request.params.setAll _)
  rw [Params.keys_setAll]
  exact List.prefix_append _ _

theorem isSome_param?_iff : (request.param? key).isSome = true ↔ key ∈ request.params.keys := by
  rw [param?, Option.isSome_iff_ne_none, ne_eq, Params.get?_eq_none_iff, not_not]

theorem addParam_eq_error_iff {force : Bool} {error : Error} :
    request.addParam key value force = .error error ↔
      force = false ∧ key ∈ request.params.keys ∧ error = .duplicateParam key := by
  cases force with
  | true => simp
  | false =>
    rw [← isSome_param?_iff]
    by_cases hpresent : (request.param? key).isSome = true
    · rw [addParam, if_pos (by simpa using hpresent)]
      exact ⟨fun h => ⟨rfl, hpresent, (Except.error.inj h).symm⟩, fun ⟨_, _, h⟩ => by rw [h]⟩
    · rw [addParam, if_neg (by simpa using hpresent)]
      exact iff_of_false (by simp) fun h => hpresent h.2.1

/-- A request that has been built somehow and then used in any way is in normal form, and its
parameters are what has been written into it, each key once in the order of first writing and with
the last value. Any further operation leaves the keys in their places. Adding a parameter without
force is refused exactly if its key is there, and then changes nothing. Normal form is stable: a
request built from the method and the path is the same up to parameters, and slashes behind a path
make no difference. -/
theorem reachable_invariant {origin : Origin} {start : Request} (h : origin.request = .ok start)
    (operations : List Operation) :
    let request := start.applyAll operations
    request.IsNormal ∧
    request.params.Collects (origin.written ++ start.written operations) ∧
    (∀ operation : Operation,
      request.params.keys <+: (operation.apply request).params.keys) ∧
    (∀ key value,
      (request.addParam key value false = .error (.duplicateParam key) ↔
        key ∈ request.params.keys) ∧
      ∀ force error, request.addParam key value force = .error error →
        force = false ∧ error = .duplicateParam key ∧
          (Operation.add key value force).apply request = request) ∧
    ofParts request.method request.path = .ok { request with params := [] } ∧
    ∀ (method path : String) (n : Nat),
      ofParts method (path ++ String.ofList (List.replicate n '/')) = ofParts method path := by
  intro request
  obtain ⟨method, path, built, hbuilt, rfl⟩ := exists_of_request h
  have hrequest : request = built.withParams (origin.written ++
      (built.withParams origin.written).written operations) := by
    rw [withParams_append]
    exact applyAll_eq _ operations
  have hnormal : request.IsNormal := by
    obtain ⟨hmethod, hpath⟩ := isNormal_of_ofParts hbuilt
    rw [hrequest]
    exact ⟨hmethod, hpath⟩
  have hparams : request.params = Params.setAll [] (origin.written ++
      (built.withParams origin.written).written operations) := by
    obtain ⟨-, rfl⟩ := ofParts_eq_ok.mp hbuilt
    rw [hrequest]
    rfl
  refine ⟨hnormal, ?_, request.keys_prefix_apply, fun key value => ⟨?_, ?_⟩, hnormal.ofParts_eq,
    fun method path n => ?_⟩
  · rw [hparams]
    exact Params.collects_setAll _
  · rw [addParam_eq_error_iff]
    simp
  · intro force error herror
    obtain ⟨hforce, -, hduplicate⟩ := addParam_eq_error_iff.mp herror
    refine ⟨hforce, hduplicate, ?_⟩
    rw [Operation.apply, herror]
    rfl
  · unfold ofParts
    rw [normalizePath_append_slashes]

/-- A value of the query gives way to one of the body and that to a captured one; a refused addition
in between leaves no trace. -/
theorem reachable_invariant_form :
    let origin : Origin := .incoming ⟨"post", "/a/b/?x=1&y=2", some "_method=put&x=3"⟩
    let router : Router Nat := (Router.create {}).declareAll
      [.direct "/a/[s:x]" StockHandler.echo.toHandler none none]
    ∃ start, origin.request = .ok start ∧
      let request := start.applyAll [.add "x" "4" false, .set "z" "5", .handle router 0]
      request.IsNormal ∧
      request.params.Collects
        [("x", "1"), ("y", "2"), ("_method", "put"), ("x", "3"), ("z", "5"), ("x", "b")] ∧
      request.params = [("x", "b"), ("y", "2"), ("_method", "put"), ("z", "5")] := by
  intro origin router
  let start : Request :=
    { method := "PUT", path := "/a/b", params := [("x", "3"), ("y", "2"), ("_method", "put")] }
  let operations : List Operation := [.add "x" "4" false, .set "z" "5", .handle router 0]
  have hstart : origin.request = .ok start := by decide +kernel
  have hlog : origin.written ++ start.written operations =
      [("x", "1"), ("y", "2"), ("_method", "put"), ("x", "3"), ("z", "5"), ("x", "b")] := by
    decide +kernel
  obtain ⟨hnormal, hcollects, -⟩ := reachable_invariant hstart operations
  rw [hlog] at hcollects
  exact ⟨start, hstart, hnormal, hcollects, by decide +kernel⟩

end Routing.Request
