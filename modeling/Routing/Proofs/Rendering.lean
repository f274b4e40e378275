import Routing.Proofs.Acceptance
import Routing.Proofs.NormalForm
import Routing.Proofs.Registration
import Routing.Proofs.Replacement

/-!
# Proofs: requests for rendered paths

A template gives a path for every choice of values for its placeholders. A request for the path
reaches the route of the template, as long as building the request leaves the path as it is: paths of
requests have no slash at their end and are never empty.
-/

namespace Routing

/-! ## Rendering -/

namespace Slot

/-- What may be chosen for the placeholder: a value of its kind or, if it is optional, nothing. -/
def Allows (slot : Slot) : Option (List Char) → Prop
  | some value => slot.kind.Admits value
  | none => slot.optional = true

/-- The text of the slot. The separator is left out together with the value. -/
def render (slot : Slot) : Option (List Char) → List Char
  | some value => slot.literal ++ (slot.separatorText ++ value)
  | none => slot.literal

end Slot

namespace Template

/-- For each placeholder something is chosen that it allows. -/
def Allows (template : Template) (shares : List (Option (List Char))) : Prop :=
  List.Forall₂ Slot.Allows template.slots shares

/-- The text of the template with what is chosen for its placeholders. -/
def render (template : Template) (shares : List (Option (List Char))) : List Char :=
  (List.zipWith Slot.render template.slots shares).flatten ++ template.tail

/-- The decompositions of a text are the choices for which the text is rendered. -/
theorem decomposes_iff {template : Template} {shares : List (Option (List Char))}
    {text : List Char} : Decomposes template.tail template.slots shares text ↔
      template.Allows shares ∧ text = template.render shares := by
  obtain ⟨slots, tail⟩ := template
  simp only [Allows, render]
  constructor
  · intro h
    induction h with
    | tail => exact ⟨.nil, rfl⟩
    | present hv _ ih =>
      obtain ⟨hshares, rfl⟩ := ih
      exact ⟨.cons hv hshares, by simp [Slot.render]⟩
    | absent hoptional _ ih =>
      obtain ⟨hshares, rfl⟩ := ih
      exact ⟨.cons hoptional hshares, by simp [Slot.render]⟩
  · rintro ⟨hshares, rfl⟩
    induction hshares with
    | nil => exact .tail
    | @cons slot share slots shares hshare _ ih =>
      rw [List.zipWith_cons_cons, List.flatten_cons, List.append_assoc]
      cases share with
      | none => exact .absent hshare ih
      | some value =>
        rw [Slot.render, List.append_assoc, List.append_assoc]
        exact .present hshare ih

end Template

namespace Pattern

variable {text path : String} {pattern : Pattern} {template : Template}

theorem slots_of_written (h : compile text = .ok pattern) (hwritten : template.Written text.toList) :
    pattern.slots = template.slots := by
  obtain ⟨read, hread, hslots, -⟩ := root_of_compile Template.builtIn h
  obtain rfl := Except.ok.inj (hread.symm.trans (Template.ofText_eq_ok.mpr hwritten))
  exact hslots

/-- The pattern of a template with built-in kinds alone matches the paths that can be rendered. -/
theorem isMatch_iff_render (h : compile text = .ok pattern) (hwritten : template.Written text.toList)
    (hcodes : ∀ slot ∈ template.slots, slot.code ∈ PlaceholderKind.builtInCodes) :
    pattern.isMatch path = true ↔
      ∃ shares, template.Allows shares ∧ path.toList = template.render shares := by
  rw [← slots_of_written h hwritten] at hcodes
  obtain ⟨read, hread, -, hroot⟩ := root_of_builtIn h hcodes
  obtain rfl := Except.ok.inj (hread.symm.trans (Template.ofText_eq_ok.mpr hwritten))
  simp only [isMatch, Regex.search, hroot, Template.isSome_search_root, Template.decomposes_iff]

/-- Text without brackets matches itself alone. -/
theorem isMatch_iff_of_unbracketed (h : compile text = .ok pattern)
    (hbrackets : Unbracketed text.toList) : pattern.isMatch path = true ↔ path = text := by
  have hwritten : Template.Written ⟨[], text.toList⟩ text.toList := .tail hbrackets
  rw [isMatch_iff_render h hwritten (by simp), ← String.toList_inj]
  simp [Template.Allows, Template.render]

/-- Nothing is captured where there are no placeholders. -/
theorem captures_of_unbracketed (h : compile text = .ok pattern)
    (hbrackets : Unbracketed text.toList) : pattern.captures text = some [] := by
  have hmatch : pattern.isMatch text = true := (isMatch_iff_of_unbracketed h hbrackets).mpr rfl
  obtain ⟨found, hfound⟩ := Option.isSome_iff_exists.mp hmatch
  have hwritten : Template.Written ⟨[], text.toList⟩ text.toList := .tail hbrackets
  rw [captures, hfound, slots_of_written h hwritten]
  rfl

/-- Text without brackets is a template that compiles, unless its expression is too large. -/
theorem exists_compilesUpToSize_of_unbracketed (hbrackets : Unbracketed text.toList) :
    ∃ pattern, CompilesUpToSize text pattern := by
  have htemplate : Template.ofText text = .ok ⟨[], text.toList⟩ :=
    Template.ofText_eq_ok.mpr (.tail hbrackets)
  obtain ⟨pattern, hpattern, -⟩ := exists_isMatch_iff_language htemplate (by simp)
  exact ⟨pattern, hpattern⟩

end Pattern

/-! ## A router with one route -/

namespace Router

variable {σ : Type} {start router : Router σ} {url : String} {handler : Handler σ}
  {method name : Option String} {request : Request}

theorem exists_of_addRoute (h : (start.addRoute url handler method name).isOk = true) :
    ∃ router, start.addRoute url handler method name = .ok router := by
  cases hadd : start.addRoute url handler method name with
  | error error =>
    rw [hadd] at h
    exact absurd h Bool.false_ne_true
  | ok router => exact ⟨router, rfl⟩

/-- What is known of the one route of a router without others. -/
theorem exists_route_of_addRoute (hempty : start.routes = [])
    (h : start.addRoute url handler method name = .ok router) :
    ∃ route, (Registration.direct url handler method name).Describes route ∧
      router.routes = [route] ∧ router.config = start.config := by
  have hdeclare := (start.declare_eq (.direct url handler method name)).symm.trans h
  cases houtcome : (Registration.direct url handler method name).outcome with
  | error error => simp [houtcome, Except.map] at hdeclare
  | ok route =>
    rw [houtcome] at hdeclare
    refine ⟨route, Registration.outcome_eq_ok_iff.mp houtcome, ?_, ?_⟩
    · rw [← Except.ok.inj hdeclare]
      show start.routes ++ [route] = [route]
      rw [hempty, List.nil_append]
    · rw [← Except.ok.inj hdeclare]

/-- A path that is rendered from a template with built-in kinds alone, whatever optional placeholders
are left out, reaches the one route of a router if it is not empty and does not end in a slash. If it
is empty, the request is one for the root, and it reaches the route exactly if the root itself is
rendered for some choice. -/
theorem handle_rendered {text : String} {template : Template}
    (hwritten : template.Written text.toList)
    (hcodes : ∀ slot ∈ template.slots, slot.code ∈ PlaceholderKind.builtInCodes)
    (hempty : start.routes = []) (hadd : start.addRoute text handler method name = .ok router)
    (hmethod : start.config.enforceMethod = true → (method.map Method.normalize).getD "GET" = "GET")
    {shares : List (Option (List Char))} (hshares : template.Allows shares)
    (hlast : (template.render shares).getLast? ≠ some '/') :
    ∃ request, Request.ofParts "GET" (String.ofList (template.render shares)) = .ok request ∧
      ∀ state,
        (template.render shares ≠ [] →
          (∃ answer, (router.handle request state).result = .ok (some answer) ∧
            answer.route.url = text) ∨
          ∃ reason, (router.handle request state).result = .error (.notInvocable text reason)) ∧
        (template.render shares = [] →
          (isDispatched (router.handle request state).result = true ↔
            ∃ other, template.Allows other ∧ template.render other = ['/'])) := by
  obtain ⟨route, hroute, hroutes, hconfig⟩ := exists_route_of_addRoute hempty hadd
  have hmatch : ∀ path : String, route.pattern.isMatch path = true ↔
      ∃ shares, template.Allows shares ∧ path.toList = template.render shares :=
    fun path => Pattern.isMatch_iff_render hroute.pattern hwritten hcodes
  have hanswers : ∀ path, router.Answers ⟨"GET", path, []⟩ route ↔
      ∃ shares, template.Allows shares ∧ path.toList = template.render shares := by
    intro path
    rw [← hmatch, Answers, hconfig, hroute.method]
    exact and_iff_right hmethod
  have hget : Text.trim "GET" ≠ "" ∧ Method.normalize "GET" = "GET" := by decide
  refine ⟨_, Request.ofParts_eq_ok.mpr ⟨hget.1, rfl⟩, fun state => ⟨fun hne => ?_, fun hnil => ?_⟩⟩
  · have hnormal : Request.IsNormalPath (String.ofList (template.render shares)) := by
      refine Or.inr ⟨mt String.ofList_eq_empty_iff.mp hne, ?_⟩
      rwa [String.toList_ofList]
    rw [hnormal.normalizePath_eq, hget.2]
    have hfirst : IsFirst (router.Answers ⟨"GET", String.ofList (template.render shares), []⟩)
        router.routes 0 route := by
      rw [hroutes, isFirst_cons_zero, hanswers]
      exact ⟨rfl, shares, hshares, String.toList_ofList⟩
    rcases result_handle_of_isFirst hfirst state with ⟨answer, hresult, rfl⟩ | ⟨reason, hresult⟩
    · exact Or.inl ⟨answer, hresult, hroute.url⟩
    · rw [hroute.url] at hresult
      exact Or.inr ⟨reason, hresult⟩
  · rw [hnil, hget.2, isDispatched_handle_iff, hroutes]
    simp only [List.mem_singleton, exists_eq_left]
    rw [show Request.normalizePath (String.ofList []) = "/" from rfl, hanswers]
    exact exists_congr fun other => and_congr_right fun _ => eq_comm

/-- Placeholders are left out at the beginning and at the end, each with its separator. -/
theorem handle_rendered_archive :
    ∃ router, (create {}).addRoute "/[i:page]?/archive.[a:format]?" StockHandler.count.toHandler none
        none = .ok router ∧
      ∃ request, Request.ofParts "GET" "/archive" = .ok request ∧
        isDispatched (router.handle request 0).result = true := by
  let text := "/[i:page]?/archive.[a:format]?"
  let template : Template :=
    ⟨[⟨['/'], "i", "page", true⟩, ⟨"/archive.".toList, "a", "format", true⟩], []⟩
  have hwritten : template.Written text.toList := Template.ofText_eq_ok.mp (by decide +kernel)
  obtain ⟨router, hadd⟩ := exists_of_addRoute (show ((create {}).addRoute text
    StockHandler.count.toHandler none none).isOk = true by decide +kernel)
  have hshares : template.Allows [none, none] := .cons rfl (.cons rfl .nil)
  have hrender : template.render [none, none] = "/archive".toList := by decide +kernel
  obtain ⟨request, hrequest, hhandle⟩ := handle_rendered hwritten (by decide) rfl hadd
    (fun _ => rfl) hshares (by decide +kernel)
  rw [hrender, String.ofList_toList] at hrequest
  refine ⟨router, hadd, request, hrequest, ?_⟩
  rcases (hhandle 0).1 (by decide +kernel) with ⟨answer, hanswer, -⟩ | ⟨reason, hreason⟩
  · rw [hanswer]
    rfl
  · rw [hreason]
    rfl

/-- A placeholder right behind the leading slash takes the slash with it when it is left out. The
request for what remains is one for the root, which the route does not match. -/
theorem handle_rendered_root :
    let template : Template := ⟨[⟨['/'], "i", "id", true⟩], []⟩
    let router := (create {}).declareAll
      [.direct "/[i:id]?" StockHandler.count.toHandler none none]
    template.Written "/[i:id]?".toList ∧ router.routes.length = 1 ∧ template.Allows [none] ∧
      (template.render [none]).getLast? ≠ some '/' ∧
      ∃ request, Request.ofParts "GET" (String.ofList (template.render [none])) = .ok request ∧
        request.path = "/" ∧ isDispatched (router.handle request 0).result = false := by
  intro template router
  refine ⟨Template.ofText_eq_ok.mp (by decide +kernel), by decide +kernel, .cons rfl .nil,
    by decide +kernel, ⟨"GET", "/", []⟩, by decide +kernel, rfl, by decide +kernel⟩

/-- A template without brackets compiles unless its expression is too large. The one route of a router
that has such a template answers the requests that are built for this very path, whatever parameters
they have been given, without capturing anything; and it answers no request at all if the path changes
when a request is built for it, which is so if it ends in a slash and is not the root. -/
theorem handle_literal {text : String} (hbrackets : Unbracketed text.toList) :
    (∃ pattern, Pattern.CompilesUpToSize text pattern) ∧
    ∀ {start router : Router σ} {handler : Handler σ} {method name : Option String},
      start.routes = [] → start.addRoute text handler method name = .ok router →
      (Request.IsNormalPath text → ∀ raw, Text.trim raw ≠ "" →
        (start.config.enforceMethod = true →
          (method.map Method.normalize).getD "GET" = Method.normalize raw) →
        ∃ built, Request.ofParts raw text = .ok built ∧ ∀ entries state,
          let request := built.withParams entries
          let handled := router.handle request state
          handled.request = request ∧ handled.state = (handler request state).2 ∧
            match (handler request state).1 with
            | .ok response => ∃ answer, handled.result = .ok (some answer) ∧
                answer.route.url = text ∧ answer.pathParams = [] ∧ answer.response = response
            | .error breakdown => handled.result = .error (.notInvocable text breakdown.reason)) ∧
      (¬ Request.IsNormalPath text → ∀ raw path built, Request.ofParts raw path = .ok built →
        ∀ entries state,
          let request := built.withParams entries
          router.handle request state = { result := .ok none, request, state }) := by
  refine ⟨Pattern.exists_compilesUpToSize_of_unbracketed hbrackets, ?_⟩
  intro start router handler method name hempty hadd
  obtain ⟨route, hroute, hroutes, hconfig⟩ := exists_route_of_addRoute hempty hadd
  have hurl : route.url = text := hroute.url
  obtain rfl : handler = route.handler := Option.some.inj hroute.handler
  have hanswers : ∀ request, router.Answers request route ↔
      (start.config.enforceMethod = true →
        (method.map Method.normalize).getD "GET" = request.method) ∧ request.path = text := by
    intro request
    rw [Answers, hconfig, hroute.method,
      Pattern.isMatch_iff_of_unbracketed hroute.pattern hbrackets]
    rfl
  refine ⟨fun hnormal raw hraw hmethod => ?_, fun hnormal raw path built hbuilt entries state => ?_⟩
  · refine ⟨_, Request.ofParts_eq_ok.mpr ⟨hraw, rfl⟩, fun entries state => ?_⟩
    rw [hnormal.normalizePath_eq]
    intro request handled
    have hcaptures : route.pattern.captures request.path = some [] :=
      Pattern.captures_of_unbracketed hroute.pattern hbrackets
    have hfirst : IsFirst (router.Answers request) router.routes 0 route := by
      rw [hroutes, isFirst_cons_zero, hanswers]
      exact ⟨rfl, hmethod, rfl⟩
    refine ⟨?_, ?_, ?_⟩
    · show (router.handle request state).request = request
      rw [handle_of_isFirst hfirst hcaptures]
      rfl
    · show (router.handle request state).state = (route.handler request state).2
      rw [handle_of_isFirst hfirst hcaptures]
      rfl
    · cases houtcome : (route.handler request state).1 with
      | error breakdown =>
        have hresult := result_handle_of_error hfirst hcaptures houtcome
        rwa [hurl] at hresult
      | ok response =>
        exact ⟨_, result_handle_of_ok hfirst hcaptures houtcome, hurl, rfl, rfl⟩
  · obtain ⟨-, hpath⟩ := Request.isNormal_of_ofParts hbuilt
    refine handle_of_forall_not (fun other hother => ?_) state
    obtain rfl : other = route := by simpa [hroutes] using hother
    rw [hanswers]
    rintro ⟨-, htext⟩
    exact hnormal (htext ▸ hpath)

/-- Characters with a meaning in expressions stand for themselves, as do blanks and slashes within. -/
theorem handle_literal_metacharacters :
    ∃ router, (create {}).addRoute "/a.b//(\n|$" StockHandler.count.toHandler none none = .ok router ∧
      ∃ built, Request.ofParts " head" "/a.b//(\n|$" = .ok built ∧
        let request := built.withParams [("key", "value")]
        let handled := router.handle request 0
        handled.request = request ∧ handled.state = 1 ∧
          ∃ answer, handled.result = .ok (some answer) ∧ answer.pathParams = [] := by
  let text := "/a.b//(\n|$"
  obtain ⟨router, hadd⟩ := exists_of_addRoute (show ((create {}).addRoute text
    StockHandler.count.toHandler none none).isOk = true by decide +kernel)
  have hbrackets : Unbracketed text.toList := ⟨by decide, by decide⟩
  have hnormal : Request.IsNormalPath text := Or.inr ⟨by decide, by decide⟩
  obtain ⟨built, hbuilt, hhandle⟩ := ((handle_literal hbrackets).2 rfl hadd).1 hnormal " head"
    (by decide) (fun henforce => absurd henforce Bool.false_ne_true)
  obtain ⟨hrequest, hstate, answer, hanswer, -, hparams, -⟩ := hhandle [("key", "value")] 0
  exact ⟨router, hadd, built, hbuilt, hrequest, hstate, answer, hanswer, hparams⟩

/-- A slash at the end is part of the template but not of the path of a request. -/
theorem handle_literal_slash :
    let router := (create {}).declareAll [.direct "/a/" StockHandler.count.toHandler none none]
    Unbracketed "/a/".toList ∧ router.routes.length = 1 ∧
      ∃ request, Request.ofParts "GET" "/a/" = .ok request ∧ request.path = "/a" ∧
        isDispatched (router.handle request 0).result = false := by
  intro router
  exact ⟨⟨by decide, by decide⟩, by decide +kernel, ⟨"GET", "/a", []⟩, by decide +kernel, rfl,
    by decide +kernel⟩

end Router

end Routing
