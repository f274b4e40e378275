import Routing.Proofs.Groups
import Routing.Proofs.Printing

/-!
# Proofs: names of placeholders

The names of placeholders have no part in matching. Two templates that differ only in them have the
same expression, so they compile together and match the same paths. What is captured for the
placeholders is the same as well, and each template reports it under its own names.
-/

namespace Routing

/-- The slot with no name. -/
def Slot.unnamed (slot : Slot) : Slot :=
  { slot with name := "" }

namespace Template

/-- The template with no names. -/
def unnamed (template : Template) : Template :=
  { template with slots := template.slots.map Slot.unnamed }

/-- What stands in the brackets of a placeholder with the code: the code alone or a name behind a
colon. -/
def HasCode (body code : List Char) : Prop :=
  body = code ∨ ∃ name, Unbracketed name ∧ ':' ∉ name ∧ body = code ++ ':' :: name

/-- The texts differ at most in the names of placeholders. -/
inductive Renamed : List Char → List Char → Prop where
  | nil : Renamed [] []
  | char (c : Char) {s t : List Char} (h : Renamed s t) : Renamed (c :: s) (c :: t)
  /-- The placeholders have the same code, whatever their names are. -/
  | placeholder {code body body' s t : List Char} (hcode : Unbracketed code) (hcolon : ':' ∉ code)
      (hbody : HasCode body code) (hbody' : HasCode body' code) (h : Renamed s t) :
      Renamed ('[' :: (body ++ ']' :: s)) ('[' :: (body' ++ ']' :: t))

variable {s t body code front : List Char} {slot : Slot} {template : Template}

/-! ## Renamed texts -/

theorem Renamed.symm (h : Renamed s t) : Renamed t s := by
  induction h with
  | nil => exact .nil
  | char c _ ih => exact .char c ih
  | placeholder hcode hcolon hbody hbody' _ ih =>
    exact .placeholder hcode hcolon hbody' hbody ih

theorem Renamed.head?_eq (h : Renamed s t) : s.head? = t.head? := by
  cases h <;> rfl

theorem Renamed.exists_cons {c : Char} (hc : c ≠ '[') (h : Renamed (c :: s) t) :
    ∃ t', t = c :: t' ∧ Renamed s t' := by
  cases h with
  | @char _ _ t' h => exact ⟨t', rfl, h⟩
  | placeholder => exact absurd rfl hc

/-- Text without an opening bracket is the same in both. -/
theorem Renamed.exists_append (hfront : '[' ∉ front) (h : Renamed (front ++ s) t) :
    ∃ t', t = front ++ t' ∧ Renamed s t' := by
  induction front generalizing t with
  | nil => exact ⟨t, rfl, h⟩
  | cons c front ih =>
    rw [List.mem_cons, not_or] at hfront
    obtain ⟨t₁, rfl, h₁⟩ := h.exists_cons (Ne.symm hfront.1)
    obtain ⟨t₂, rfl, h₂⟩ := ih hfront.2 h₁
    exact ⟨t₂, rfl, h₂⟩

theorem HasCode.unbracketed (hcode : Unbracketed code) (h : HasCode body code) :
    Unbracketed body := by
  obtain rfl | ⟨name, hname, -, rfl⟩ := h
  · exact hcode
  · exact ⟨by simp [hcode.1, hname.1], by simp [hcode.2, hname.2]⟩

/-- At a placeholder the texts have the same code. -/
theorem Renamed.exists_placeholder (hbody : Unbracketed body)
    (h : Renamed ('[' :: (body ++ ']' :: s)) t) :
    ∃ body' t', t = '[' :: (body' ++ ']' :: t') ∧ Renamed s t' ∧ (body' = body ∨
      ∃ code, Unbracketed code ∧ ':' ∉ code ∧ HasCode body code ∧ HasCode body' code) := by
  generalize hs : '[' :: (body ++ ']' :: s) = text at h
  cases h with
  | nil => simp at hs
  | @char c later t₁ h =>
    obtain ⟨rfl, rfl⟩ := List.cons.inj hs
    obtain ⟨t₂, rfl, h₂⟩ := h.exists_append hbody.1
    obtain ⟨t₃, rfl, h₃⟩ := h₂.exists_cons (by decide)
    exact ⟨body, t₃, rfl, h₃, Or.inl rfl⟩
  | @placeholder code other body' later t' hcode hcolon hother hbody' h =>
    -- the bodies end at the first closing bracket
    have hcut := congrArg (Text.cutAt (· = ']')) (List.cons.inj hs).2
    rw [cutAt_append_cons hbody.2, cutAt_append_cons (hother.unbracketed hcode).2] at hcut
    obtain ⟨rfl, hlater⟩ := Prod.mk.inj hcut
    obtain rfl := Option.some.inj hlater
    exact ⟨body', t', rfl, h, Or.inr ⟨code, hcode, hcolon, hother, hbody'⟩⟩

/-! ## Renamed templates -/

theorem HasCode.code_eq (hcolon : ':' ∉ code) (h : HasCode body code)
    (hslot : slot.WrittenAs body) : slot.code.toList = code := by
  have hcut : (Text.cutAt (· = ':') body).1 = code := by
    obtain rfl | ⟨name, -, -, rfl⟩ := h
    · rw [cutAt_eq_self hcolon]
    · rw [cutAt_append_cons hcolon]
  obtain ⟨hcode, -, ⟨-, rfl⟩ | rfl⟩ := hslot
  · rwa [cutAt_eq_self hcode] at hcut
  · rwa [cutAt_append_cons hcode] at hcut

/-- Whatever has the code of a slot describes the slot, under some name. -/
theorem HasCode.exists_writtenAs (hcolon : ':' ∉ slot.code.toList)
    (h : HasCode body slot.code.toList) :
    ∃ name, Slot.WrittenAs { slot with name } body := by
  obtain rfl | ⟨name, -, hname, rfl⟩ := h
  · exact ⟨"", hcolon, by simp, Or.inl ⟨rfl, rfl⟩⟩
  · refine ⟨String.ofList name, hcolon, ?_, Or.inr ?_⟩
    · rwa [String.toList_ofList]
    · rw [String.toList_ofList]

/-- A renamed text writes a template that differs in the names only. -/
theorem Renamed.exists_written (h : Renamed s t) (hwritten : template.Written s) :
    ∃ other : Template, other.Written t ∧ other.unnamed = template.unnamed := by
  induction hwritten generalizing t with
  | @tail tail htail =>
    rw [← List.append_nil tail] at h
    obtain ⟨t', rfl, h'⟩ := h.exists_append htail.1
    cases h' with
    | nil => exact ⟨⟨[], tail⟩, by simpa using Written.tail htail, rfl⟩
  | @slot slot slots tail body rest hlead hbody hbrackets hmark _ ih =>
    have hmarked : '[' ∉ mark slot.optional := by cases slot.optional <;> simp [mark]
    obtain ⟨t₁, rfl, h₁⟩ := h.exists_append hlead.1
    obtain ⟨body', t₂, rfl, h₂, hsame⟩ := h₁.exists_placeholder hbrackets
    obtain ⟨t₃, rfl, h₃⟩ := h₂.exists_append hmarked
    obtain ⟨⟨slots', tail'⟩, hwritten', hunnamed⟩ := ih h₃
    obtain ⟨name, hbody', hbrackets'⟩ :
        ∃ name, Slot.WrittenAs { slot with name } body' ∧ Unbracketed body' := by
      obtain rfl | ⟨code, hcode, hcolon, hhas, hhas'⟩ := hsame
      · exact ⟨slot.name, hbody, hbrackets⟩
      · obtain rfl := hhas.code_eq hcolon hbody
        obtain ⟨name, hname⟩ := hhas'.exists_writtenAs hcolon
        exact ⟨name, hname, hhas'.unbracketed hcode⟩
    rw [h₃.head?_eq] at hmark
    have hslots : slots'.map Slot.unnamed = slots.map Slot.unnamed :=
      congrArg Template.slots hunnamed
    have htail : tail' = tail := congrArg Template.tail hunnamed
    refine ⟨⟨{ slot with name } :: slots', tail'⟩, ?_, ?_⟩
    · exact @Written.slot { slot with name } slots' tail' body' t₃ hlead hbody' hbrackets' hmark
        hwritten'
    · rw [unnamed, unnamed, List.map_cons, List.map_cons, hslots, htail]
      rfl

theorem slotExpressions_unnamed (k : Nat) (slots : List Slot) :
    slotExpressions k (slots.map Slot.unnamed) = slotExpressions k slots := by
  induction slots generalizing k with
  | nil => rfl
  | cons slot slots ih =>
    rw [List.map_cons, slotExpressions, slotExpressions, ih]
    rfl

/-- No name enters the expression. -/
theorem expression_unnamed (template : Template) :
    template.unnamed.expression = template.expression := by
  rw [expression, expression, unnamed, slotExpressions_unnamed]

end Template

/-! ## Compiled templates -/

namespace Pattern

/-- What the placeholders capture when a path is matched, in their order. -/
def values? (pattern : Pattern) (path : String) : Option (List (Option String)) :=
  (pattern.regex.search path).map fun found =>
    (List.range pattern.slots.length).map fun k =>
      pattern.regex.captured? found path (Template.groupName k)

/-- The values that are there, under the names of their placeholders. What has no name is left
out. -/
def report (names : List String) (values : List (Option String)) : List (String × String) :=
  (names.zip values).filterMap fun (name, value) => if name = "" then none else value.map (name, ·)

variable {text text' : String} {pattern pattern' : Pattern}

theorem captures_eq_report (pattern : Pattern) (path : String) :
    pattern.captures path = (pattern.values? path).map (report pattern.names) := by
  rw [captures, values?, Option.map_map]
  refine congrArg (Option.map · _) (funext fun found => ?_)
  rw [namedValues_eq_filterMap, Function.comp, report, names, List.zipIdx_eq_zip_range',
    ← List.range_eq_range', List.zip_map, List.filterMap_map]
  rfl

/-- A renamed template compiles to a pattern that differs in the names only. -/
theorem exists_compile_of_renamed (hrenamed : Template.Renamed text.toList text'.toList)
    (h : compile text = .ok pattern) :
    ∃ pattern', compile text' = .ok pattern' ∧ pattern'.regex = pattern.regex ∧
      pattern'.slots.map Slot.unnamed = pattern.slots.map Slot.unnamed := by
  obtain ⟨template, hread, hregex, hslots⟩ := compile_eq_ok_iff.mp h
  obtain ⟨other, hother, hunnamed⟩ := hrenamed.exists_written (Template.ofText_eq_ok.mp hread)
  have hexpression : other.expression = template.expression := by
    rw [← Template.expression_unnamed, hunnamed, Template.expression_unnamed]
  refine ⟨⟨other.slots, pattern.regex⟩, compile_eq_ok_iff.mpr ⟨other,
    Template.ofText_eq_ok.mpr hother, ?_, rfl⟩, rfl, ?_⟩
  · rw [hexpression, hregex]
  · rw [hslots]
    exact congrArg Template.slots hunnamed

/-- Take two templates that differ at most in the names of their placeholders, custom fragments
included. One compiles exactly if the other does. Both have the same regular expression and accept the
same paths. What their placeholders capture in a path is the same as well, and each of the two reports
it under its own names, and leaves out the placeholders that have no name. -/
theorem captures_renamed (hrenamed : Template.Renamed text.toList text'.toList) :
    (compile text).isOk = (compile text').isOk ∧
    ∀ pattern pattern', compile text = .ok pattern → compile text' = .ok pattern' →
      pattern.regex = pattern'.regex ∧
      pattern.slots.map Slot.unnamed = pattern'.slots.map Slot.unnamed ∧
      ∀ path, pattern.isMatch path = pattern'.isMatch path ∧
        pattern.values? path = pattern'.values? path ∧
        pattern.captures path = (pattern.values? path).map (report pattern.names) ∧
        pattern'.captures path = (pattern'.values? path).map (report pattern'.names) := by
  constructor
  · cases h : compile text with
    | ok pattern =>
      obtain ⟨pattern', h', -⟩ := exists_compile_of_renamed hrenamed h
      rw [h']
      rfl
    | error defect =>
      cases h' : compile text' with
      | error defect' => rfl
      | ok pattern' =>
        obtain ⟨other, hother, -⟩ := exists_compile_of_renamed hrenamed.symm h'
        rw [h] at hother
        exact absurd hother (by simp)
  · intro pattern pattern' h h'
    obtain ⟨other, hother, hregex, hslots⟩ := exists_compile_of_renamed hrenamed h
    obtain rfl := Except.ok.inj (h'.symm.trans hother)
    have hlength : pattern'.slots.length = pattern.slots.length := by
      simpa using congrArg List.length hslots
    refine ⟨hregex.symm, hslots.symm, fun path => ⟨?_, ?_, captures_eq_report pattern path,
      captures_eq_report pattern' path⟩⟩
    · rw [isMatch, isMatch, hregex]
    · rw [values?, values?, hregex, hlength]

/-- A name like that of another group, one that no group can have, and none at all. -/
theorem captures_renamed_exchanged :
    ∃ pattern pattern', compile "/[(a|b):x]/[i:p0]" = .ok pattern ∧
      compile "/[(a|b)]/[i:é(]" = .ok pattern' ∧ pattern.regex = pattern'.regex ∧
      (∀ path, pattern.isMatch path = pattern'.isMatch path) ∧
      pattern.captures "/a/7" = some [("x", "a"), ("p0", "7")] ∧
      pattern'.captures "/a/7" = some [("é(", "7")] := by
  have hcode : Unbracketed "(a|b)".toList := by simp [Unbracketed]
  have hinteger : Unbracketed "i".toList := by simp [Unbracketed]
  have hfirst : Template.HasCode "(a|b):x".toList "(a|b)".toList :=
    Or.inr ⟨"x".toList, by simp [Unbracketed], by simp, by decide⟩
  have hsecond : ∀ name, Unbracketed name → ':' ∉ name →
      Template.HasCode ("i".toList ++ ':' :: name) "i".toList :=
    fun name hname hcolon => Or.inr ⟨name, hname, hcolon, rfl⟩
  have hrest : Template.Renamed ('/' :: '[' :: (("i".toList ++ ':' :: "p0".toList) ++ [']']))
      ('/' :: '[' :: (("i".toList ++ ':' :: "é(".toList) ++ [']'])) :=
    .char '/' (.placeholder hinteger (by simp) (hsecond _ (by simp [Unbracketed]) (by simp))
      (hsecond _ (by simp [Unbracketed]) (by simp)) .nil)
  have hrenamed : Template.Renamed "/[(a|b):x]/[i:p0]".toList "/[(a|b)]/[i:é(]".toList :=
    .char '/' (.placeholder hcode (by simp) hfirst (Or.inl rfl) hrest)
  obtain ⟨pattern, hcompile, hcaptures⟩ := exists_of_compile "/[(a|b):x]/[i:p0]"
    (captures · "/a/7") (show _ = some (some [("x", "a"), ("p0", "7")]) by decide +kernel)
  obtain ⟨pattern', hcompile', hcaptures'⟩ := exists_of_compile "/[(a|b)]/[i:é(]"
    (captures · "/a/7") (show _ = some (some [("é(", "7")]) by decide +kernel)
  obtain ⟨hregex, -, hpaths⟩ := (captures_renamed hrenamed).2 _ _ hcompile hcompile'
  exact ⟨pattern, pattern', hcompile, hcompile', hregex, fun path => (hpaths path).1, hcaptures,
    hcaptures'⟩

end Pattern

end Routing
