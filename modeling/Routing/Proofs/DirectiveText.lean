import Mathlib.Data.List.Basic
import Mathlib.Data.List.TakeWhile
import Mathlib.Tactic.Common
import Routing.Proofs.PathSegments
import Routing.Proofs.Specificity

/-!
# Proofs: the text of directives

Directives are written with commas between them and are cut apart at the commas again, since no
directive that is read from a text without commas is written with one. A directive that sets a level
for a target, or for everything, is written with no bracket, and all others are written with one; so
it is seen in the written form which directives are of this kind, and which target and which level
they are about.
-/

namespace Routing

namespace Text

/-- Texts without separators are what a text is cut into in which they are joined. -/
theorem pieces_intercalate {stop : Char} {parts : List (List Char)} (hne : parts ≠ [])
    (h : ∀ part ∈ parts, stop ∉ part) :
    pieces (· = stop) ([stop].intercalate parts) = parts := by
  have hpart : ∀ part ∈ parts, ∀ c ∈ part, (decide (c = stop)) = false := fun part hpart c hc =>
    decide_eq_false fun heq => h part hpart (heq ▸ hc)
  induction parts with
  | nil => exact absurd rfl hne
  | cons part parts ih =>
    have hfirst := hpart part List.mem_cons_self
    cases parts with
    | nil => rw [List.intercalate_singleton, pieces_of_forall_not _ _ hfirst]
    | cons next parts =>
      have hrest := ih (List.cons_ne_nil next parts)
        (fun p hp => h p (List.mem_cons_of_mem part hp))
        fun p hp => hpart p (List.mem_cons_of_mem part hp)
      rw [List.intercalate_cons_cons, List.append_assoc, pieces_append_of_forall_not hfirst,
        List.singleton_append, pieces_cons_of_sep (decide_eq_true rfl), hrest, List.modifyHead_cons,
        List.append_nil]

/-- A text is cut at its last separator in one way only. -/
theorem append_cons_inj {stop : Char} {s t s' t' : List Char} (ht : stop ∉ t) (ht' : stop ∉ t')
    (h : s ++ stop :: t = s' ++ stop :: t') : s = s' ∧ t = t' := by
  rcases List.append_eq_append_iff.mp h with ⟨more, rfl, hmore⟩ | ⟨more, rfl, hmore⟩
  · cases more with
    | nil => exact ⟨(List.append_nil s).symm, (List.cons.inj hmore).2⟩
    | cons c more =>
      rw [(List.cons.inj hmore).2] at ht
      exact absurd (by simp) ht
  · cases more with
    | nil => exact ⟨List.append_nil s', (List.cons.inj hmore).2.symm⟩
    | cons c more =>
      rw [(List.cons.inj hmore).2] at ht'
      exact absurd (by simp) ht'

end Text

namespace Log

variable {text rest : List Char} {target target' : Option String} {level level' : Level}
  {d directive : Directive}

/-! ## Directives without a comma -/

/-- Names of levels hold none of the characters that structure directives. -/
theorem Level.not_mem_name (level : Level) :
    '=' ∉ level.name.toList ∧ '[' ∉ level.name.toList ∧ ',' ∉ level.name.toList := by
  cases level <;> decide

theorem Level.name_injective (h : level.name = level'.name) : level = level' := by
  cases level <;> cases level' <;> first | rfl | exact absurd h (by decide)

namespace Field

/-- Bringing a value into plain form puts no comma into it. -/
theorem comma_not_mem_plainValue (h : ',' ∉ text) : ',' ∉ (plainValue text).toList := by
  have hdigits : ∀ n : Nat, ',' ∉ (toString n).toList := by
    intro n hmem
    rw [Nat.toString_eq_ofList_toDigits, String.toList_ofList] at hmem
    exact absurd (Nat.isDigit_of_mem_toDigits (by decide) (by decide) hmem) (by decide)
  have htext : ',' ∉ (String.ofList text).toList := by rwa [String.toList_ofList]
  unfold plainValue
  split
  · exact hdigits _
  · split
    · split
      · split_ifs
        · decide
        · rw [String.toList_append, List.mem_append]
          exact not_or.mpr ⟨by decide, hdigits _⟩
        · exact htext
      · exact htext
    · exact htext

theorem comma_not_mem_render (h : ',' ∉ text) : ',' ∉ (ofText text).render.toList := by
  have hcut : ∀ text : List Char, ',' ∉ text → ',' ∉ (Text.cutAt (· = '=') text).1 := by
    intro text h hmem
    rw [Text.fst_cutAt] at hmem
    exact h (List.takeWhile_subset _ hmem)
  have hname : ',' ∉ (String.ofList (Text.cutAt (· = '=') text).1).toList := by
    rw [String.toList_ofList]
    exact hcut text h
  have hspec := Text.cutAt_spec (· = '=') text
  unfold ofText render
  generalize hcutText : Text.cutAt (· = '=') text = cut at hname hspec
  obtain ⟨name, _ | rest⟩ := cut
  · exact hname
  · obtain ⟨c, -, rfl⟩ := hspec
    have hrest : ',' ∉ rest := fun hmem => h (by simp [hmem])
    simp only [Option.map_some, String.toList_append, List.mem_append, not_or]
    exact ⟨⟨hname, by decide⟩, comma_not_mem_plainValue (hcut rest hrest)⟩

end Field

namespace Directive

/-- The directive is written without a comma, and with no bracket in its target. -/
structure IsUnbroken (directive : Directive) : Prop where
  /-- The target holds no comma and no bracket. -/
  target : ∀ c ∈ (directive.target.getD "").toList, c ≠ ',' ∧ c ≠ '['
  /-- The span holds no comma. -/
  span : ',' ∉ (directive.span.getD "").toList
  /-- There is one field at most, and so no comma between fields. -/
  single : directive.fields.length ≤ 1
  /-- The field holds no comma. -/
  field : ∀ field ∈ directive.fields, ',' ∉ field.render.toList

/-- Whether a directive is unbroken does not depend on its level. -/
theorem IsUnbroken.congr (h : d.IsUnbroken) (hscope : directive.scope = d.scope) :
    directive.IsUnbroken := by
  simp only [scope, Prod.mk.injEq] at hscope
  obtain ⟨htarget, hspan, hfields⟩ := hscope
  exact ⟨htarget ▸ h.target, hspan ▸ h.span, hfields ▸ h.single, hfields ▸ h.field⟩

/-- An unbroken directive is written without a comma. -/
theorem IsUnbroken.comma_not_mem_render (h : d.IsUnbroken) : ',' ∉ d.render.toList := by
  have htarget : ',' ∉ (d.target.getD "").toList := fun hmem => (h.target _ hmem).1 rfl
  have hlevel := d.level.not_mem_name.2.2
  have hfields : ',' ∉ (",".intercalate (d.fields.map (·.render))).toList := by
    have hsingle := h.single
    have hfield := h.field
    match hcases : d.fields with
    | [] => decide
    | [field] =>
      rw [hcases] at hfield
      rw [List.map_singleton, String.intercalate_singleton]
      exact hfield field (List.mem_singleton_self field)
    | _ :: _ :: _ =>
      rw [hcases] at hsingle
      exact absurd hsingle (by simp)
  unfold render
  generalize ",".intercalate (d.fields.map (·.render)) = fields at hfields
  dsimp only
  split_ifs <;> simp [htarget, hlevel, hfields, h.span]

/-! ## Reading keeps commas and brackets out -/

theorem scope_of_readTail? {span : Option String} {fields : List Field}
    (h : readTail? target span fields text = some d) : d.scope = (target, span, fields) := by
  unfold readTail? at h
  split at h
  · obtain ⟨level, -, rfl⟩ := Option.map_eq_some_iff.mp h
    rfl
  · split_ifs at h
    rw [← Option.some.inj h]
    rfl

/-- What is read behind an opening bracket of a text without commas is unbroken. -/
theorem isUnbroken_of_readSpan? (htarget : ∀ c ∈ (target.getD "").toList, c ≠ ',' ∧ c ≠ '[')
    (htext : ',' ∉ text) (h : readSpan? target text = some d) : d.IsUnbroken := by
  have hspan : ',' ∉ (String.ofList (text.takeWhile fun c => c ≠ ']' && c ≠ '\x7b')).toList := by
    rw [String.toList_ofList]
    exact fun hmem => htext (List.takeWhile_subset _ hmem)
  unfold readSpan? at h
  generalize (text.takeWhile fun c => c ≠ ']' && c ≠ '\x7b') = name at h hspan
  dsimp only at h
  split at h
  · have hplain : IsUnbroken
        { target, span := some (String.ofList name), fields := [], level := .off } :=
      ⟨htarget, hspan, by simp, by simp⟩
    exact hplain.congr (scope_of_readTail? h)
  · rename_i rest hrest
    have hcomma : ',' ∉ rest := fun hmem =>
      htext (List.mem_of_mem_drop (hrest ▸ List.mem_cons_of_mem _ hmem))
    split at h
    · cases h
    · rename_i field rest' _ hcut
      have hfield : ',' ∉ field := by
        have hfst : field = rest.takeWhile fun c => !decide (c = '\x7d') := by
          rw [← Text.fst_cutAt, hcut]
        rw [hfst]
        exact fun hmem => hcomma (List.takeWhile_subset _ hmem)
      have hone : IsUnbroken
          { target, span := if name.isEmpty then none else some (String.ofList name)
            fields := [Field.ofText field], level := .off } := by
        refine ⟨htarget, ?_, by simp, by simpa using Field.comma_not_mem_render hfield⟩
        dsimp only
        split_ifs
        · decide
        · exact hspan
      exact hone.congr (scope_of_readTail? h)
    · cases h
  · cases h

theorem isUnbroken_target {word : List Char} (h : ∀ c ∈ word, c ≠ ',' ∧ c ≠ '[') (level : Level) :
    IsUnbroken { target := some (String.ofList word), span := none, fields := [], level } := by
  refine ⟨?_, by simp, by simp, by simp⟩
  rw [Option.getD_some, String.toList_ofList]
  exact h

theorem isUnbroken_ofWord {word : List Char} (h : ∀ c ∈ word, c ≠ ',' ∧ c ≠ '[') :
    (ofWord word).IsUnbroken := by
  unfold ofWord
  split
  · exact ⟨by simp, by simp, by simp, by simp⟩
  · exact isUnbroken_target h _

/-- So is what begins with a word. -/
theorem isUnbroken_of_readWord? (htext : ',' ∉ text) (h : readWord? text = some d) :
    d.IsUnbroken := by
  have hword : ∀ c ∈ text.takeWhile fun c => c ≠ '=' && c ≠ '[', c ≠ ',' ∧ c ≠ '[' := by
    intro c hc
    have hmark := List.mem_takeWhile_imp hc
    simp only [Bool.and_eq_true, decide_eq_true_eq] at hmark
    exact ⟨fun heq => htext (heq ▸ List.takeWhile_subset _ hc), hmark.2⟩
  unfold readWord? at h
  generalize (text.takeWhile fun c => c ≠ '=' && c ≠ '[') = word at h hword
  dsimp only at h
  split at h
  · obtain ⟨level, -, rfl⟩ := Option.map_eq_some_iff.mp h
    exact isUnbroken_target hword level
  · rename_i rest hrest
    have hcomma : ',' ∉ rest := fun hmem =>
      htext (List.mem_of_mem_drop (hrest ▸ List.mem_cons_of_mem _ hmem))
    refine isUnbroken_of_readSpan? ?_ hcomma h
    rw [Option.getD_some, String.toList_ofList]
    exact hword
  · rw [← Option.some.inj h]
    exact isUnbroken_ofWord hword

/-- All directives that are read from a text without commas are unbroken. -/
theorem isUnbroken_of_ofText? (htext : ',' ∉ text) (h : ofText? text = some d) :
    d.IsUnbroken := by
  unfold ofText? at h
  split at h
  · cases h
  · rename_i rest
    exact isUnbroken_of_readSpan? (by simp) (fun hmem => htext (List.mem_cons_of_mem _ hmem)) h
  · split_ifs at h with hbegin hblank
    · exact isUnbroken_of_readWord? htext h
    · rw [← Option.some.inj h]
      simp only [Bool.and_eq_true, List.all_eq_true] at hblank
      refine isUnbroken_ofWord fun c hc => ⟨fun heq => htext (heq ▸ hc), ?_⟩
      simpa using (hblank.2 c hc).2

/-! ## The directives for a target -/

/-- The directive that sets the level for a target, or without a target for everything. -/
def plain (target : Option String) (level : Level) : Directive :=
  { target, span := none, fields := [], level }

/-- A directive that does not depend on a span has a target and a level and nothing else. -/
theorem plain_of_not_isDynamic (h : d.isDynamic = false) : d = plain d.target d.level := by
  obtain ⟨target, span, fields, level⟩ := d
  simp only [isDynamic, Bool.or_eq_false_iff, Option.isSome_eq_false_iff, Option.isNone_iff_eq_none,
    Bool.not_eq_false', List.isEmpty_iff] at h
  obtain ⟨rfl, rfl⟩ := h
  rfl

/-- Directives for spans are written with a bracket. -/
theorem bracket_mem_render (h : d.isDynamic = true) : '[' ∈ d.render.toList := by
  simp [render, h]

theorem render_plain_none (level : Level) : (plain none level).render = level.name := rfl

theorem toList_render_plain_some (target : String) (level : Level) :
    (plain (some target) level).render.toList = target.toList ++ '=' :: level.name.toList := by
  simp [render, plain, isDynamic]

/-- Other directives are written without one, unless their target has one. -/
theorem bracket_not_mem_render (htarget : '[' ∉ (target.getD "").toList) (level : Level) :
    '[' ∉ (plain target level).render.toList := by
  have hlevel := level.not_mem_name.2.1
  cases target with
  | none => exact hlevel
  | some target =>
    rw [toList_render_plain_some, List.mem_append, List.mem_cons, not_or, not_or]
    exact ⟨htarget, by decide, hlevel⟩

theorem render_plain_ne_empty (target : Option String) (level : Level) :
    (plain target level).render ≠ "" := by
  cases target with
  | none => cases level <;> decide
  | some target =>
    intro h
    have hnil := congrArg String.toList h
    rw [toList_render_plain_some] at hnil
    exact absurd hnil (by simp)

/-- It can be seen in the written form which target and which level a directive is about. -/
theorem render_plain_inj :
    (plain target level).render = (plain target' level').render ↔
      target = target' ∧ level = level' := by
  refine ⟨fun h => ?_, fun h => by rw [h.1, h.2]⟩
  -- an equals sign is only written behind a target
  cases target with
  | none =>
    cases target' with
    | none => exact ⟨rfl, Level.name_injective h⟩
    | some target' =>
      have hequals := level.not_mem_name.1
      rw [← render_plain_none, h, toList_render_plain_some] at hequals
      exact absurd (by simp) hequals
  | some target =>
    cases target' with
    | none =>
      have hequals := level'.not_mem_name.1
      rw [← render_plain_none, ← h, toList_render_plain_some] at hequals
      exact absurd (by simp) hequals
    | some target' =>
      have htexts := congrArg String.toList h
      rw [toList_render_plain_some, toList_render_plain_some] at htexts
      obtain ⟨htarget, hlevel⟩ :=
        Text.append_cons_inj level.not_mem_name.1 level'.not_mem_name.1 htexts
      exact ⟨congrArg some (String.toList_inj.mp htarget),
        Level.name_injective (String.toList_inj.mp hlevel)⟩

end Directive

end Log

end Routing
