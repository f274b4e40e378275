import Mathlib.Tactic.Common
import Routing.Response

/-!
# Proofs: headers

Setting a header takes all headers of its name away and puts it at the end. So after several headers
have been set, those whose names were not set stand first and as they were; behind them stands one
header for every name that was set, as it was set last. Names are compared up to ASCII case, which is
an equivalence.
-/

namespace Routing

namespace Text

theorem sameIgnoringCase_comm (s t : String) : sameIgnoringCase s t = sameIgnoringCase t s :=
  Bool.eq_iff_iff.mpr ⟨sameIgnoringCase_symm, sameIgnoringCase_symm⟩

/-- Names that are the same up to case can stand for each other. -/
theorem sameIgnoringCase_congr {s t : String} (h : sameIgnoringCase s t = true) (u : String) :
    sameIgnoringCase u s = sameIgnoringCase u t :=
  Bool.eq_iff_iff.mpr
    ⟨fun hs => sameIgnoringCase_trans hs h,
      fun ht => sameIgnoringCase_trans ht (sameIgnoringCase_symm h)⟩

end Text

namespace Response

open Text

/-- Whether a header has the name, however it is spelled. -/
def isNamed (name : String) (header : String × String) : Bool :=
  sameIgnoringCase header.1 name

/-- The headers of a name, however it is spelled. -/
def headersOf (response : Response) (name : String) : List (String × String) :=
  response.headers.filter (isNamed name)

/-- The response after several headers have been set, each given by its name and its value. -/
def setHeaders (response : Response) (calls : List (String × String)) : Response :=
  calls.foldl (fun response call => response.setHeader call.1 call.2) response

/-- Whether one of the calls sets the name. -/
def isSet (calls : List (String × String)) (name : String) : Bool :=
  calls.any (isNamed name)

/-- The calls behind which their name is not set again, in order. -/
def lastCalls : List (String × String) → List (String × String)
  | [] => []
  | call :: calls => if isSet calls call.1 then lastCalls calls else call :: lastCalls calls

/-- The call sets the name, and no later one does. -/
def SetsLast (calls : List (String × String)) (name : String) (call : String × String) : Prop :=
  ∃ earlier later, calls = earlier ++ call :: later ∧ isNamed name call = true ∧
    isSet later name = false

/-- No two headers have the same name. -/
def HasDistinctNames (response : Response) : Prop :=
  response.headers.Pairwise fun header other => isNamed other.1 header = false

variable {response : Response} {calls : List (String × String)} {call header : String × String}
  {name : String}

theorem isNamed_congr (h : isNamed name header = true) (other : String × String) :
    isNamed header.1 other = isNamed name other :=
  sameIgnoringCase_congr h other.1

theorem isSet_congr (h : isNamed name header = true) : isSet calls header.1 = isSet calls name :=
  congrArg calls.any (funext (isNamed_congr h))

theorem isSet_cons (call : String × String) (calls : List (String × String)) (name : String) :
    isSet (call :: calls) name = (isNamed name call || isSet calls name) := rfl

/-- A name is set by a sequence of calls if one of them has it. -/
theorem isSet_append_cons (h : isNamed name call = true) (earlier later : List (String × String)) :
    isSet (earlier ++ call :: later) name = true :=
  List.any_eq_true.mpr ⟨call, by simp, h⟩

/-! ## Several headers set one after the other -/

/-- One call takes out the headers of its name and puts a new one behind the others. -/
theorem headers_setHeader (response : Response) (call : String × String) :
    (response.setHeader call.1 call.2).headers =
      response.headers.filter (fun header => !isSet [call] header.1) ++ [call] := by
  have hset : ∀ header : String × String, isSet [call] header.1 = isNamed call.1 header := by
    intro header
    rw [isSet_cons, isNamed, sameIgnoringCase_comm]
    exact Bool.or_false _
  simp only [hset]
  rfl

theorem setHeaders_cons (response : Response) (call : String × String)
    (calls : List (String × String)) :
    response.setHeaders (call :: calls) = (response.setHeader call.1 call.2).setHeaders calls := rfl

/-- The headers whose names are not set stay in order, and the last calls follow in order. -/
theorem headers_setHeaders (response : Response) (calls : List (String × String)) :
    (response.setHeaders calls).headers =
      response.headers.filter (fun header => !isSet calls header.1) ++ lastCalls calls := by
  induction calls generalizing response with
  | nil => simp [setHeaders, lastCalls, isSet, List.filter_eq_self.mpr]
  | cons call calls ih =>
    have hkept : (response.headers.filter fun header => !isSet [call] header.1).filter
        (fun header => !isSet calls header.1) =
          response.headers.filter fun header => !isSet (call :: calls) header.1 := by
      rw [List.filter_filter]
      refine List.filter_congr fun header _ => ?_
      rw [isSet_cons, isSet_cons, Bool.not_or, Bool.not_or, Bool.and_comm]
      exact congrArg (· && _) (Bool.and_true _)
    rw [setHeaders_cons, ih, headers_setHeader, List.filter_append, hkept, List.append_assoc,
      lastCalls]
    cases hset : isSet calls call.1 <;> simp [hset]

/-- Neither status nor body depends on the calls. -/
theorem status_body_setHeaders (response : Response) (calls : List (String × String)) :
    (response.setHeaders calls).status = response.status ∧
      (response.setHeaders calls).body = response.body := by
  induction calls generalizing response with
  | nil => exact ⟨rfl, rfl⟩
  | cons call calls ih => exact ih (response.setHeader call.1 call.2)

/-! ## The headers of one name -/

/-- A name that is set has a last call. -/
theorem exists_setsLast (h : isSet calls name = true) : ∃ call, SetsLast calls name call := by
  induction calls with
  | nil => cases h
  | cons first calls ih =>
    cases hset : isSet calls name with
    | true =>
      obtain ⟨call, earlier, later, rfl, hname, hlater⟩ := ih hset
      exact ⟨call, first :: earlier, later, rfl, hname, hlater⟩
    | false =>
      rw [isSet_cons, hset, Bool.or_false] at h
      exact ⟨first, [], calls, rfl, h, hset⟩

/-- A name that is not set has no last call. -/
theorem filter_lastCalls_of_not_isSet (h : isSet calls name = false) :
    (lastCalls calls).filter (isNamed name) = [] := by
  induction calls with
  | nil => rfl
  | cons first calls ih =>
    obtain ⟨hfirst, hcalls⟩ := Bool.or_eq_false_iff.mp h
    rw [lastCalls]
    split_ifs
    · exact ih hcalls
    · rw [List.filter_cons_of_neg (by simp [hfirst]), ih hcalls]

/-- Of the last calls one sets the name: the last one that does. -/
theorem SetsLast.filter_lastCalls (h : SetsLast calls name call) :
    (lastCalls calls).filter (isNamed name) = [call] := by
  obtain ⟨earlier, later, rfl, hname, hlater⟩ := h
  induction earlier with
  | nil =>
    have hunset : isSet later call.1 = false := (isSet_congr hname).trans hlater
    rw [List.nil_append, lastCalls, if_neg (by simp [hunset]), List.filter_cons_of_pos hname,
      filter_lastCalls_of_not_isSet hlater]
  | cons first earlier ih =>
    rw [List.cons_append, lastCalls]
    split_ifs with hagain
    · exact ih
    · have hother : ¬ isNamed name first = true := by
        intro hfirst
        rw [isSet_congr hfirst] at hagain
        exact hagain (isSet_append_cons hname earlier later)
      rw [List.filter_cons_of_neg hother, ih]

/-- A name that is set has the header of its last call, and another name the headers it had. -/
theorem headersOf_setHeaders (response : Response) (calls : List (String × String))
    (name : String) :
    (response.setHeaders calls).headersOf name =
      (if isSet calls name then [] else response.headersOf name) ++
        (lastCalls calls).filter (isNamed name) := by
  have hkept : (response.headers.filter fun header => !isSet calls header.1).filter (isNamed name) =
      if isSet calls name then [] else response.headersOf name := by
    rw [List.filter_filter]
    -- a header of the name is kept exactly if the name is not set
    have hcongr : ∀ header ∈ response.headers, (isNamed name header && !isSet calls header.1) =
        (isNamed name header && !isSet calls name) := by
      intro header _
      cases hname : isNamed name header with
      | false => rfl
      | true => rw [isSet_congr hname]
    rw [List.filter_congr hcongr]
    cases isSet calls name <;> simp [headersOf]
  rw [headersOf, headers_setHeaders, List.filter_append, hkept]

theorem header?_eq (response : Response) (name : String) :
    response.header? name = (response.headersOf name).head?.map (·.2) := by
  rw [headersOf, List.head?_filter]
  rfl

/-! ## Distinct names -/

/-- One call leaves names distinct. -/
theorem HasDistinctNames.setHeader (h : response.HasDistinctNames) (name value : String) :
    (response.setHeader name value).HasDistinctNames := by
  refine List.pairwise_append.mpr ⟨h.filter _, List.pairwise_singleton _ _, ?_⟩
  intro header hheader other hother
  have hkept := (List.mem_filter.mp hheader).2
  rw [List.mem_singleton.mp hother]
  exact (Bool.not_eq_true' _).mp hkept

theorem HasDistinctNames.setHeaders (h : response.HasDistinctNames)
    (calls : List (String × String)) : (response.setHeaders calls).HasDistinctNames := by
  induction calls generalizing response with
  | nil => exact h
  | cons call calls ih => exact ih (h.setHeader call.1 call.2)

/-- Responses begin with one header. -/
theorem hasDistinctNames_json (status : UInt16) (body : Json.Value) :
    (json status body).HasDistinctNames :=
  List.pairwise_singleton _ _

/-- Headers are set one after the other on a response with any headers, in any spelling of their
names. Then those headers whose names were not set stand first, as they were and in their order, and
the last calls for all names follow in theirs. Under any spelling of a name that was set there is
exactly one header, which is what the last call for it says and is found under it; the headers of any
other name are those it had, and the first of them is found. Responses that are made with a content
type have no two headers of the same name then. -/
theorem setHeaders_keep_last (response : Response) (calls : List (String × String)) :
    let later := response.setHeaders calls
    (later.status = response.status ∧ later.body = response.body) ∧
    later.headers =
      response.headers.filter (fun header => !isSet calls header.1) ++ lastCalls calls ∧
    (∀ name,
      (∃ call, SetsLast calls name call ∧ later.headersOf name = [call] ∧
        later.header? name = some call.2) ∨
      isSet calls name = false ∧ later.headersOf name = response.headersOf name ∧
        later.header? name = (response.headersOf name).head?.map (·.2)) ∧
    ∀ status body message, ((json status body).setHeaders calls).HasDistinctNames ∧
      ((okJson body).setHeaders calls).HasDistinctNames ∧
      ((error status message).setHeaders calls).HasDistinctNames := by
  intro later
  refine ⟨response.status_body_setHeaders calls, response.headers_setHeaders calls, fun name => ?_,
    fun status body message => ?_⟩
  · have hheaders := response.headersOf_setHeaders calls name
    cases hset : isSet calls name with
    | true =>
      obtain ⟨call, hcall⟩ := exists_setsLast hset
      have hone : later.headersOf name = [call] := by
        rw [hheaders, hset, if_pos rfl, List.nil_append, hcall.filter_lastCalls]
      refine Or.inl ⟨call, hcall, hone, ?_⟩
      rw [header?_eq, hone]
      rfl
    | false =>
      have hsame : later.headersOf name = response.headersOf name := by
        rw [hheaders, hset, if_neg Bool.false_ne_true, filter_lastCalls_of_not_isSet hset,
          List.append_nil]
      refine Or.inr ⟨rfl, hsame, ?_⟩
      rw [header?_eq, hsame]
  · exact ⟨(hasDistinctNames_json _ _).setHeaders calls, (hasDistinctNames_json _ _).setHeaders calls,
      (hasDistinctNames_json _ _).setHeaders calls⟩

end Response

end Routing
