import Routing.Proofs.Merge
import Routing.Proofs.NormalForm
import Routing.RawRequest

/-!
# Proofs: requests as they come in

Three things make up a request: its target, the method that counts and the pairs of query and body.
A request is built unless the target is refused or the method is blank, in this order; the pairs are
never a reason to refuse it, since a later pair simply takes the place of an earlier one.
-/

namespace Routing

/-! ## Blank texts and slashes at the end -/

namespace Text

/-- Nothing remains of a text exactly if it consists of blanks. -/
theorem trim_eq_empty_iff (s : String) : trim s = "" ↔ ∀ c ∈ s.toList, isBlank c = true := by
  have hempty : trim s = "" ↔ stripWhile isBlank s.toList = [] := by
    rw [← String.toList_inj, toList_trim, String.toList_empty]
  rw [hempty, stripWhile, dropEndWhile_eq_rdropWhile, List.rdropWhile_eq_nil_iff]
  constructor
  · intro hrest c hc
    rw [← List.takeWhile_append_dropWhile (p := isBlank) (l := s.toList), List.mem_append] at hc
    rcases hc with hc | hc
    · exact List.mem_takeWhile_imp hc
    · exact hrest c hc
  · intro hall c hc
    exact hall c (List.dropWhile_subset _ hc)

end Text

namespace Request

/-- The path without the slashes at its end; where nothing else is left, it is the root. -/
def Strips (path stripped : String) : Prop :=
  ∃ (stem : List Char) (n : Nat), path.toList = stem ++ List.replicate n '/' ∧
    stem.getLast? ≠ some '/' ∧ stripped = if stem = [] then "/" else String.ofList stem

/-- Normalizing a path strips the slashes at its end. -/
theorem strips_normalizePath (path : String) : Strips path (normalizePath path) := by
  let slashes := path.toList.rtakeWhile (· = '/')
  have hslashes : slashes = List.replicate slashes.length '/' :=
    List.eq_replicate_iff.mpr ⟨rfl, fun c hc => by simpa using List.mem_rtakeWhile_imp hc⟩
  refine ⟨Text.dropEndWhile (· = '/') path.toList, slashes.length, ?_, fun hlast => ?_, ?_⟩
  · rw [← hslashes]
    exact List.rdropWhile_append_rtakeWhile.symm
  · simpa using Text.getLast?_dropEndWhile _ _ _ hlast
  · unfold normalizePath
    split
    · rename_i hnil
      rw [if_pos hnil]
    · rename_i hne
      rw [if_neg hne]

end Request

/-! ## The method that counts -/

namespace RawRequest

/-- The method that counts: the value of the last field of the body that names one, or the method of
the request if there is none. Fields of the query do not count. -/
inductive Names (raw : RawRequest) : String → Prop where
  /-- A field of the body names it, and no later one does. -/
  | field {before after : List (String × String)} {method : String}
      (hpairs : raw.bodyPairs = before ++ (methodField, method) :: after)
      (hlast : ∀ pair ∈ after, pair.1 ≠ methodField) : Names raw method
  /-- No field of the body does. -/
  | transport (hnone : ∀ pair ∈ raw.bodyPairs, pair.1 ≠ methodField) : Names raw raw.method

theorem names_iff (raw : RawRequest) (method : String) :
    raw.Names method ↔ method = raw.effectiveMethod := by
  unfold effectiveMethod
  constructor
  · rintro (⟨hpairs, hlast⟩ | hnone)
    · rename_i before after
      have hafter : after.reverse.find? (fun pair => pair.1 = methodField) = none := by
        simpa using hlast
      rw [hpairs, List.reverse_append, List.reverse_cons, List.append_assoc, List.find?_append,
        hafter, List.singleton_append, List.find?_cons_of_pos (by simp)]
      rfl
    · have hfind : raw.bodyPairs.reverse.find? (fun pair => pair.1 = methodField) = none := by
        simpa using hnone
      rw [hfind]
      rfl
  · rintro rfl
    cases hfind : raw.bodyPairs.reverse.find? fun pair => pair.1 = methodField with
    | none => exact .transport (by simpa using hfind)
    | some pair =>
      obtain ⟨name, method⟩ := pair
      obtain ⟨hname, after, before, hpairs, hafter⟩ := List.find?_eq_some_iff_append.mp hfind
      obtain rfl : name = methodField := by simpa using hname
      have hsplit : raw.bodyPairs = before.reverse ++ (methodField, method) :: after.reverse := by
        rw [← List.reverse_reverse raw.bodyPairs, hpairs]
        simp
      exact .field hsplit fun pair hpair => by simpa using hafter pair (List.mem_reverse.mp hpair)

/-! ## The request -/

/-- The pairs that are written into the request: those of the query, then those of the body. -/
def writtenPairs (raw : RawRequest) (target : Target) : List (String × String) :=
  (target.query.map Form.pairs).getD [] ++ raw.bodyPairs

/-- The request is what the raw parts say, given what their target reads as and the method that
counts. -/
structure Builds (raw : RawRequest) (target : Target) (method : String) (request : Request) :
    Prop where
  /-- The method is trimmed and in upper case. -/
  method : request.method = Text.asciiUpper (Text.trim method)
  /-- The path is that of the target, without the slashes at its end. -/
  path : Request.Strips target.path request.path
  /-- Every name of a pair stands once, where it came first, with the value that came last. -/
  params : request.params.Collects (raw.writtenPairs target)
  /-- The pairs may as well be added one by one; none of them is refused. -/
  added : (raw.writtenPairs target).foldlM
    (fun request pair => request.addParam pair.1 pair.2 true) { request with params := [] } =
      .ok request

/-- A target that cannot be read is a defect of the request. -/
theorem exists_defect_of_ofText {target : String} {error : Error}
    (h : Target.ofText target = .error error) : ∃ defect, error = .invalidRequest defect := by
  unfold Target.ofText at h
  split at h
  · exact ⟨_, (Except.error.inj h).symm⟩
  · exact ⟨_, (Except.error.inj h).symm⟩
  · cases h

theorem toRequest_of_error {raw : RawRequest} {error : Error}
    (h : Target.ofText raw.target = .error error) : raw.toRequest = .error error := by
  rw [toRequest, h]
  rfl

/-- Once the target has been read, a request is built of its path and the effective method, and takes
the pairs. -/
theorem toRequest_of_ok (raw : RawRequest) {target : Target}
    (h : Target.ofText raw.target = .ok target) :
    raw.toRequest = (Request.ofParts raw.effectiveMethod target.path).map
      (·.withParams (raw.writtenPairs target)) := by
  rw [toRequest, h]
  cases hbuilt : Request.ofParts raw.effectiveMethod target.path with
  | error error => simp only [bind, Except.bind, hbuilt, Except.map]
  | ok built => simp only [bind, Except.bind, hbuilt, Except.map, pure, Except.pure, writtenPairs]

theorem builds_of_ofParts {raw : RawRequest} {target : Target} {method : String} {built : Request}
    (h : Request.ofParts method target.path = .ok built) :
    raw.Builds target method (built.withParams (raw.writtenPairs target)) := by
  obtain ⟨-, rfl⟩ := Request.ofParts_eq_ok.mp h
  exact
    { method := rfl
      path := Request.strips_normalizePath target.path
      params := Params.collects_setAll _
      added := Request.foldlM_addParam_force _ _ }

theorem exists_target_of_toRequest {raw : RawRequest} {request : Request}
    (h : raw.toRequest = .ok request) : ∃ target, Target.ofText raw.target = .ok target := by
  cases htarget : Target.ofText raw.target with
  | error error =>
    rw [toRequest_of_error htarget] at h
    cases h
  | ok target => exact ⟨target, rfl⟩

theorem exists_ofParts_of_toRequest {raw : RawRequest} {target : Target} {request : Request}
    (htarget : Target.ofText raw.target = .ok target) (h : raw.toRequest = .ok request) :
    ∃ built, Request.ofParts raw.effectiveMethod target.path = .ok built ∧
      request = built.withParams (raw.writtenPairs target) := by
  rw [raw.toRequest_of_ok htarget] at h
  cases hbuilt : Request.ofParts raw.effectiveMethod target.path with
  | error error =>
    rw [hbuilt] at h
    cases h
  | ok built =>
    rw [hbuilt] at h
    exact ⟨built, rfl, (Except.ok.inj h).symm⟩

/-- Once its target is read, a request is built exactly if the method that counts is not blank. -/
theorem exists_toRequest_iff (raw : RawRequest) {target : Target}
    (h : Target.ofText raw.target = .ok target) :
    (∃ request, raw.toRequest = .ok request) ↔ Text.trim raw.effectiveMethod ≠ "" := by
  rw [raw.toRequest_of_ok h, Request.ofParts]
  split_ifs with hblank
  · simp [hblank, Except.map]
  · simp [hblank, Except.map]

theorem params_of_toRequest (raw : RawRequest) {target : Target} {request : Request}
    (h : Target.ofText raw.target = .ok target) (hrequest : raw.toRequest = .ok request) :
    request.path = Request.normalizePath target.path ∧
      request.params = Params.setAll [] (raw.writtenPairs target) := by
  obtain ⟨built, hbuilt, rfl⟩ := exists_ofParts_of_toRequest h hrequest
  obtain ⟨-, rfl⟩ := Request.ofParts_eq_ok.mp hbuilt
  exact ⟨rfl, rfl⟩

/-- A request is built exactly if the target is read and the method that counts is not blank; a
target that is not read is reported before a blank method, and no name of a pair is ever taken
twice. What is built is the method in normal form, the path without slashes at its end and the pairs
of query and body, each name once. -/
theorem toRequest_built (raw : RawRequest) :
    ∃ method, (∀ other, raw.Names other ↔ other = method) ∧
      ((∃ request, raw.toRequest = .ok request) ↔
        (∃ target, Target.ofText raw.target = .ok target) ∧
          ¬ ∀ c ∈ method.toList, Text.isBlank c = true) ∧
      (∀ key, raw.toRequest ≠ .error (.duplicateParam key)) ∧
      match Target.ofText raw.target with
      | .error error => raw.toRequest = .error error
      | .ok target =>
        ((∀ c ∈ method.toList, Text.isBlank c = true) ∧
          raw.toRequest = .error (.invalidRequest .blankMethod)) ∨
        (¬ ∀ c ∈ method.toList, Text.isBlank c = true) ∧
          ∃ request, raw.toRequest = .ok request ∧ raw.Builds target method request := by
  refine ⟨raw.effectiveMethod, raw.names_iff, ?_⟩
  rw [← Text.trim_eq_empty_iff]
  cases htarget : Target.ofText raw.target with
  | error error =>
    obtain ⟨defect, rfl⟩ := exists_defect_of_ofText htarget
    rw [toRequest_of_error htarget]
    exact ⟨by simp, by simp, rfl⟩
  | ok target =>
    have hbuilt := raw.exists_toRequest_iff htarget
    by_cases hblank : Text.trim raw.effectiveMethod = ""
    · have hrefused : raw.toRequest = .error (.invalidRequest .blankMethod) := by
        rw [raw.toRequest_of_ok htarget, Request.ofParts, if_pos hblank]
        rfl
      rw [hrefused]
      exact ⟨by simp [hblank], by simp, .inl ⟨hblank, rfl⟩⟩
    · obtain ⟨request, hrequest⟩ := hbuilt.mpr hblank
      obtain ⟨built, hparts, rfl⟩ := exists_ofParts_of_toRequest htarget hrequest
      rw [hrequest]
      refine ⟨by simp [hblank], by simp, .inr ⟨hblank, _, rfl, ?_⟩⟩
      exact builds_of_ofParts hparts

end RawRequest

end Routing
