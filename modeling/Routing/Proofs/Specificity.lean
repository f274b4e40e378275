import Mathlib.Data.List.Nodup
import Mathlib.Data.List.Perm.Basic
import Mathlib.Tactic.Common
import Routing.Log.Filter

/-!
# Proofs: the order of directives

Directives are kept in the order of their specificity, which is a strict order in which any two
directives of different scopes can be compared. So a list in this order holds one directive for a scope
at most, and is determined by what it holds for every scope. A directive that is put into such a list
replaces the one of its scope and leaves the others; what a list holds for a scope after several
directives have been put into it is the last of them with this scope.
-/

namespace Routing.Log

/-- What a directive is about: its target, its span and the fields of the span. -/
abbrev Scope := Option String × Option String × List Field

variable {a b c d : Directive} {ds es : List Directive}

namespace Directive

/-- All of the directive but its level. -/
def scope (directive : Directive) : Scope :=
  (directive.target, directive.span, directive.fields)

/-- The texts by which directives are ordered that are equally specific. -/
def texts (directive : Directive) : List String :=
  [directive.target.getD "", directive.span.getD ""] ++ directive.fields.flatMap (·.key)

theorem sameScope_iff : a.sameScope b = true ↔ a.scope = b.scope := by
  simp only [sameScope, scope, Bool.and_eq_true, decide_eq_true_eq, Prod.mk.injEq, and_assoc]

theorem precedes_iff : a.precedes b = true ↔
    b.specificity < a.specificity ∨ a.specificity = b.specificity ∧ b.texts < a.texts := by
  simp only [precedes, texts, Bool.or_eq_true, Bool.and_eq_true, decide_eq_true_eq]

/-- Fields can be told from the texts by which they are ordered. -/
theorem flatMap_key_injective {fields others : List Field}
    (h : fields.flatMap (·.key) = others.flatMap (·.key)) : fields = others := by
  induction fields generalizing others with
  | nil =>
    cases others with
    | nil => rfl
    | cons other others => simp [Field.key] at h
  | cons field fields ih =>
    cases others with
    | nil => simp [Field.key] at h
    | cons other others =>
      obtain ⟨name, value⟩ := field
      obtain ⟨name', value'⟩ := other
      simp only [List.flatMap_cons, Field.key, List.cons_append, List.nil_append, List.cons.injEq] at h
      obtain ⟨hflag, rfl, hvalue, hrest⟩ := h
      rw [ih hrest]
      cases value <;> cases value' <;> simp_all

/-- Directives that cannot be told apart by the order have the same scope. -/
theorem scope_eq (hspecificity : a.specificity = b.specificity) (htexts : a.texts = b.texts) :
    a.scope = b.scope := by
  obtain ⟨target, span, fields, _⟩ := a
  obtain ⟨target', span', fields', _⟩ := b
  simp only [specificity, List.cons.injEq, and_true] at hspecificity
  simp only [texts, List.cons_append, List.nil_append, List.cons.injEq] at htexts
  obtain ⟨htarget, hspan, -⟩ := hspecificity
  obtain ⟨htarget', hspan', hfields⟩ := htexts
  have htargets : target = target' := by
    cases target <;> cases target' <;> simp_all
  have hspans : span = span' := by
    cases span <;> cases span' <;> simp_all
  rw [scope, scope, htargets, hspans, flatMap_key_injective hfields]

theorem specificity_congr (h : a.scope = b.scope) : a.specificity = b.specificity := by
  simp only [scope, Prod.mk.injEq] at h
  rw [specificity, specificity, h.1, h.2.1, h.2.2]

theorem texts_congr (h : a.scope = b.scope) : a.texts = b.texts := by
  simp only [scope, Prod.mk.injEq] at h
  rw [texts, texts, h.1, h.2.1, h.2.2]

/-- The level has no part in the order. -/
theorem precedes_congr (h : a.scope = b.scope) (c : Directive) : a.precedes c = b.precedes c := by
  rw [Bool.eq_iff_iff, precedes_iff, precedes_iff, specificity_congr h, texts_congr h]

theorem scope_ne_of_precedes (h : a.precedes b = true) : a.scope ≠ b.scope := by
  intro hscope
  rw [precedes_iff, specificity_congr hscope, texts_congr hscope] at h
  rcases h with h | h
  · exact List.lt_irrefl _ h
  · exact List.lt_irrefl _ h.2

/-- The order is transitive. -/
theorem precedes_trans (hab : a.precedes b = true) (hbc : b.precedes c = true) :
    a.precedes c = true := by
  rw [precedes_iff] at hab hbc ⊢
  rcases hab with hab | ⟨hab, htexts⟩ <;> rcases hbc with hbc | ⟨hbc, htexts'⟩
  · exact Or.inl (List.lt_trans hbc hab)
  · exact Or.inl (hbc ▸ hab)
  · exact Or.inl (hab ▸ hbc)
  · exact Or.inr ⟨hab.trans hbc, List.lt_trans htexts' htexts⟩

theorem not_precedes_of_precedes (h : a.precedes b = true) : ¬ b.precedes a = true :=
  fun hba => scope_ne_of_precedes (precedes_trans h hba) rfl

/-- Of two directives with different scopes one comes before the other. -/
theorem precedes_of_not_precedes (hscope : a.scope ≠ b.scope) (h : ¬ a.precedes b = true) :
    b.precedes a = true := by
  rw [precedes_iff] at h ⊢
  rcases Std.lt_trichotomy a.specificity b.specificity with hlt | heq | hlt
  · exact Or.inl hlt
  · rcases Std.lt_trichotomy a.texts b.texts with hlt' | heq' | hlt'
    · exact Or.inr ⟨heq.symm, hlt'⟩
    · exact absurd (scope_eq heq heq') hscope
    · exact absurd (Or.inr ⟨heq, hlt'⟩) h
  · exact absurd (Or.inl hlt) h

end Directive

namespace Filter

open Directive

variable {scope : Scope}

/-- The directives stand in the order of their specificity. -/
def IsOrdered (ds : List Directive) : Prop :=
  ds.Pairwise fun d e => d.precedes e = true

/-- The directive that a list holds for a scope: the first one. -/
def firstOf (scope : Scope) (ds : List Directive) : Option Directive :=
  ds.find? (·.scope = scope)

/-- The last directive of a sequence with a scope. -/
def lastOf (scope : Scope) (ds : List Directive) : Option Directive :=
  ds.reverse.find? (·.scope = scope)

/-- The list with several directives put into it, one after the other. -/
def insertAll (ds es : List Directive) : List Directive :=
  es.foldl (fun ds directive => insert directive ds) ds

/-! ## Lists in order -/

theorem firstOf_cons (scope : Scope) (d : Directive) (ds : List Directive) :
    firstOf scope (d :: ds) = if d.scope = scope then some d else firstOf scope ds := by
  by_cases h : d.scope = scope <;> simp [firstOf, h]

/-- A list in order holds its directives for their scopes. -/
theorem firstOf_eq_some_iff (h : IsOrdered ds) :
    firstOf scope ds = some d ↔ d ∈ ds ∧ d.scope = scope := by
  constructor
  · intro hfirst
    exact ⟨List.mem_of_find?_eq_some hfirst, by simpa using List.find?_some hfirst⟩
  · rintro ⟨hd, rfl⟩
    induction ds with
    | nil => cases hd
    | cons e ds ih =>
      obtain ⟨he, hds⟩ := List.pairwise_cons.mp h
      rw [firstOf_cons]
      rcases List.mem_cons.mp hd with rfl | hd
      · exact if_pos rfl
      · rw [if_neg (scope_ne_of_precedes (he d hd)), ih hds hd]

/-- What lists in order hold for all scopes determines them. -/
theorem IsOrdered.eq_of_firstOf (hds : IsOrdered ds) (hes : IsOrdered es)
    (h : ∀ scope, firstOf scope ds = firstOf scope es) : ds = es := by
  have hnodup : ∀ {ds : List Directive}, IsOrdered ds → ds.Nodup := fun hds =>
    hds.imp fun hprecedes heq => scope_ne_of_precedes hprecedes (congrArg _ heq)
  have hmem : ∀ d, d ∈ ds ↔ d ∈ es := by
    intro d
    have hfirst := h d.scope
    rw [← and_iff_left (a := d ∈ ds) (rfl : d.scope = d.scope), ← firstOf_eq_some_iff hds, hfirst,
      firstOf_eq_some_iff hes, and_iff_left rfl]
  refine List.Perm.eq_of_pairwise (fun a b _ _ hab hba => ?_) hds hes
    ((List.perm_ext_iff_of_nodup (hnodup hds) (hnodup hes)).mpr hmem)
  exact absurd hba (not_precedes_of_precedes hab)

/-! ## Insertion -/

theorem mem_insert (h : c ∈ insert d ds) : c = d ∨ c ∈ ds := by
  induction ds with
  | nil => simpa [insert] using h
  | cons e ds ih =>
    rw [insert] at h
    split_ifs at h
    · rcases List.mem_cons.mp h with rfl | h
      · exact Or.inl rfl
      · exact Or.inr (List.mem_cons_of_mem e h)
    · exact List.mem_cons.mp h
    · rcases List.mem_cons.mp h with rfl | h
      · exact Or.inr List.mem_cons_self
      · exact (ih h).imp_right (List.mem_cons_of_mem e)

theorem mem_insertAll (h : c ∈ insertAll ds es) : c ∈ ds ∨ c ∈ es := by
  induction es generalizing ds with
  | nil => exact Or.inl h
  | cons e es ih =>
    rcases ih h with h | h
    · rcases mem_insert h with rfl | h
      · exact Or.inr List.mem_cons_self
      · exact Or.inl h
    · exact Or.inr (List.mem_cons_of_mem e h)

/-- What is held for the scope of the new directive is this directive; for other scopes nothing
changes. -/
theorem firstOf_insert (scope : Scope) (d : Directive) (ds : List Directive) :
    firstOf scope (insert d ds) = if d.scope = scope then some d else firstOf scope ds := by
  induction ds with
  | nil => exact firstOf_cons scope d []
  | cons e ds ih =>
    rw [insert]
    by_cases hsame : d.sameScope e = true
    · rw [if_pos hsame, firstOf_cons, firstOf_cons, ← sameScope_iff.mp hsame]
      split_ifs <;> rfl
    · have hother : d.scope ≠ e.scope := mt sameScope_iff.mpr hsame
      rw [if_neg hsame]
      by_cases hprecedes : d.precedes e = true
      · rw [if_pos hprecedes]
        exact firstOf_cons scope d (e :: ds)
      · rw [if_neg hprecedes, firstOf_cons, ih, firstOf_cons]
        split_ifs with he hd
        · exact absurd (hd.trans he.symm) hother
        · rfl
        · rfl
        · rfl

/-- Insertion keeps a list in order. -/
theorem IsOrdered.insert (h : IsOrdered ds) (d : Directive) : IsOrdered (insert d ds) := by
  induction ds with
  | nil => exact List.pairwise_singleton _ _
  | cons e ds ih =>
    obtain ⟨he, hds⟩ := List.pairwise_cons.mp h
    rw [Filter.insert]
    split_ifs with hsame hprecedes
    · refine List.pairwise_cons.mpr ⟨fun c hc => ?_, hds⟩
      rw [precedes_congr (sameScope_iff.mp hsame)]
      exact he c hc
    · refine List.pairwise_cons.mpr ⟨fun c hc => ?_, h⟩
      rcases List.mem_cons.mp hc with rfl | hc
      · exact hprecedes
      · exact precedes_trans hprecedes (he c hc)
    · refine List.pairwise_cons.mpr ⟨fun c hc => ?_, ih hds⟩
      rcases mem_insert hc with rfl | hc
      · exact precedes_of_not_precedes (mt sameScope_iff.mpr hsame) hprecedes
      · exact he c hc

theorem IsOrdered.insertAll (h : IsOrdered ds) (es : List Directive) :
    IsOrdered (insertAll ds es) := by
  induction es generalizing ds with
  | nil => exact h
  | cons e es ih => exact ih (h.insert e)

/-! ## The last directive of a scope -/

/-- The last directive of a scope comes from the later ones, if they have one. -/
theorem lastOf_append (scope : Scope) (ds es : List Directive) :
    lastOf scope (ds ++ es) = (lastOf scope es).or (lastOf scope ds) := by
  rw [lastOf, List.reverse_append, List.find?_append]
  rfl

theorem lastOf_cons (scope : Scope) (d : Directive) (ds : List Directive) :
    lastOf scope (d :: ds) = (lastOf scope ds).or (if d.scope = scope then some d else none) := by
  rw [← List.singleton_append, lastOf_append]
  by_cases h : d.scope = scope <;> simp [lastOf, h]

/-- Directives of other scopes can be left out. -/
theorem lastOf_filter {p : Directive → Bool} (hp : ∀ d ∈ ds, d.scope = scope → p d = true) :
    lastOf scope (ds.filter p) = lastOf scope ds := by
  induction ds with
  | nil => rfl
  | cons d ds ih =>
    have hds := ih fun e he => hp e (List.mem_cons_of_mem d he)
    rw [lastOf_cons, List.filter_cons]
    split_ifs with hd hscope hscope
    · rw [lastOf_cons, if_pos hscope, hds]
    · rw [lastOf_cons, if_neg hscope, hds]
    · exact absurd (hp d List.mem_cons_self hscope) hd
    · rw [hds, Option.or_none]

theorem lastOf_eq_none (h : ∀ d ∈ ds, d.scope ≠ scope) : lastOf scope ds = none :=
  List.find?_eq_none.mpr fun d hd => by simpa using h d (List.mem_reverse.mp hd)

/-- What a list holds for a scope after several directives have been put into it. -/
theorem firstOf_insertAll (scope : Scope) (ds es : List Directive) :
    firstOf scope (insertAll ds es) = (lastOf scope es).or (firstOf scope ds) := by
  induction es generalizing ds with
  | nil => rfl
  | cons e es ih =>
    rw [lastOf_cons, Option.or_assoc]
    refine (ih (Filter.insert e ds)).trans (congrArg _ ?_)
    rw [firstOf_insert]
    split_ifs <;> rfl

/-- Only the last directives count of those that are put into a list. -/
theorem IsOrdered.insertAll_congr (h : IsOrdered ds) {es es' : List Directive}
    (hlast : ∀ scope, lastOf scope es = lastOf scope es') :
    Filter.insertAll ds es = Filter.insertAll ds es' :=
  (h.insertAll es).eq_of_firstOf (h.insertAll es') fun scope => by
    rw [firstOf_insertAll, firstOf_insertAll, hlast]

theorem lastOf_eq_some_iff (h : ds.Pairwise fun d e => d.scope ≠ e.scope) :
    lastOf scope ds = some d ↔ d ∈ ds ∧ d.scope = scope := by
  constructor
  · intro hlast
    exact ⟨List.mem_reverse.mp (List.mem_of_find?_eq_some hlast), by simpa using List.find?_some hlast⟩
  · rintro ⟨hd, rfl⟩
    induction ds with
    | nil => cases hd
    | cons e ds ih =>
      obtain ⟨he, hds⟩ := List.pairwise_cons.mp h
      rw [lastOf_cons]
      rcases List.mem_cons.mp hd with rfl | hd
      · rw [lastOf_eq_none fun c hc heq => he c hc heq.symm, if_pos rfl]
        rfl
      · rw [ih hds hd]
        rfl

/-- The order of directives with different scopes does not count. -/
theorem lastOf_perm (hperm : ds.Perm es) (h : ds.Pairwise fun d e => d.scope ≠ e.scope)
    (scope : Scope) : lastOf scope ds = lastOf scope es := by
  refine Option.ext fun d => ?_
  rw [lastOf_eq_some_iff h, lastOf_eq_some_iff (hperm.pairwise h fun hab => hab.symm),
    hperm.mem_iff]

end Filter

end Routing.Log
