import Mathlib.Data.List.Basic
import Mathlib.Data.List.Perm.Basic
import Mathlib.Tactic.Common
import Routing.Log.Config
import Routing.Proofs.DirectiveText

/-!
# Proofs: log filters

A filter is made from a sequence of directives: those it starts from, and the further ones of the
settings behind them. It depends on nothing but the last directive of each scope, so what cannot be read
does not matter, nor does the order of directives for different targets. In the written form of the
filter, every target stands once at most, with the level of its last directive.
-/

namespace Routing

namespace Text

theorem mem_of_mem_stripWhile {p : Char → Bool} {cs : List Char} {c : Char}
    (h : c ∈ stripWhile p cs) : c ∈ cs := by
  unfold stripWhile dropEndWhile at h
  exact List.dropWhile_subset p (List.mem_reverse.mp
    (List.dropWhile_subset p (List.mem_reverse.mp h)))

end Text

namespace Log

variable {ds es : List Directive} {d : Directive} {filter : Filter} {target : Option String}

/-- What is read of several things has been read of one of them. -/
theorem exists_of_mem_mapM {α β : Type} {f : α → Option β} {xs : List α} {ys : List β} {y : β}
    (h : xs.mapM f = some ys) (hy : y ∈ ys) : ∃ x ∈ xs, f x = some y := by
  induction xs generalizing ys with
  | nil =>
    rw [List.mapM_nil] at h
    cases h
    cases hy
  | cons x xs ih =>
    rw [List.mapM_cons] at h
    obtain ⟨first, hfirst, h⟩ := Option.bind_eq_some_iff.mp h
    obtain ⟨rest, hrest, h⟩ := Option.bind_eq_some_iff.mp h
    cases h
    rcases List.mem_cons.mp hy with rfl | hy
    · exact ⟨x, List.mem_cons_self, hfirst⟩
    · obtain ⟨found, hfound, hread⟩ := ih hrest hy
      exact ⟨found, List.mem_cons_of_mem x hfound, hread⟩

namespace Level

/-- The text is the name of a level that logs something, in any case. -/
def IsNamed (text : String) (level : Level) : Prop :=
  level ≠ off ∧ Text.asciiLower text = level.name

/-- A level of the settings is the one that is named, and `info` if none is. -/
theorem ofSetting_eq_iff {text : String} {level : Level} : ofSetting text = level ↔
    IsNamed text level ∨ level = info ∧ ∀ other, ¬ IsNamed text other := by
  have hnamed : ∀ level, IsNamed text level → ofSetting text = level := by
    rintro level ⟨hoff, hname⟩
    unfold ofSetting
    rw [hname]
    cases level with
    | off => exact absurd rfl hoff
    | _ => rfl
  have hunnamed : (∀ other, ¬ IsNamed text other) → ofSetting text = info := by
    intro h
    unfold ofSetting
    split
    · exact absurd ⟨by decide, ‹_›⟩ (h trace)
    · exact absurd ⟨by decide, ‹_›⟩ (h debug)
    · exact absurd ⟨by decide, ‹_›⟩ (h warn)
    · exact absurd ⟨by decide, ‹_›⟩ (h error)
    · rfl
  constructor
  · rintro rfl
    by_cases h : ∃ other, IsNamed text other
    · obtain ⟨other, hother⟩ := h
      rw [hnamed other hother]
      exact Or.inl hother
    · rw [not_exists] at h
      exact Or.inr ⟨hunnamed h, h⟩
  · rintro (h | ⟨rfl, h⟩)
    · exact hnamed level h
    · exact hunnamed h

end Level

namespace Directive

theorem isStatic_congr {e : Directive} (h : d.scope = e.scope) : d.isStatic = e.isStatic := by
  simp only [scope, Prod.mk.injEq] at h
  rw [isStatic, isStatic, h.2.1, h.2.2]

theorem isStatic_of_not_isDynamic (h : d.isDynamic = false) : d.isStatic = true := by
  rw [plain_of_not_isDynamic h]
  rfl

theorem isDynamic_eq_false (h : d.scope = (target, none, [])) : d.isDynamic = false := by
  simp only [scope, Prod.mk.injEq] at h
  rw [isDynamic, h.2.1, h.2.2]
  rfl

end Directive

namespace Filter

open Directive

/-- The filter with several directives added, one after the other. -/
def addEach (filter : Filter) (ds : List Directive) : Filter :=
  ds.foldl add filter

/-- Both lists of the filter are in order. -/
structure HasOrder (filter : Filter) : Prop where
  /-- The directives that do not depend on a span are in order. -/
  statics : IsOrdered filter.statics
  /-- The directives that depend on a span are in order. -/
  dynamics : IsOrdered filter.dynamics

/-! ## The lists of a filter -/

/-- Of the directives that are added one by one, the static ones go into the first list. -/
theorem statics_addEach (filter : Filter) (ds : List Directive) :
    (filter.addEach ds).statics = insertAll filter.statics (ds.filter (·.isStatic)) := by
  induction ds generalizing filter with
  | nil => rfl
  | cons d ds ih =>
    refine (ih (filter.add d)).trans ?_
    rw [add, List.filter_cons]
    split_ifs <;> rfl

theorem dynamics_addEach (filter : Filter) (ds : List Directive) :
    (filter.addEach ds).dynamics = insertAll filter.dynamics (ds.filter (!·.isStatic)) := by
  induction ds generalizing filter with
  | nil => rfl
  | cons d ds ih =>
    refine (ih (filter.add d)).trans ?_
    rw [add, List.filter_cons]
    cases d.isStatic <;> rfl

theorem statics_ofDirectives (ds : List Directive) : (ofDirectives ds).statics =
    insertAll [] (ds.filter (!·.isDynamic) ++ (ds.filter (·.isDynamic)).filter (·.isStatic)) := by
  rw [ofDirectives, List.partition_eq_filter_filter]
  rfl

theorem dynamics_ofDirectives (ds : List Directive) :
    (ofDirectives ds).dynamics = insertAll [] (ds.filter (·.isDynamic)) := by
  rw [ofDirectives, List.partition_eq_filter_filter]
  rfl

theorem HasOrder.addEach (h : filter.HasOrder) (ds : List Directive) :
    (filter.addEach ds).HasOrder := by
  constructor
  · rw [statics_addEach]
    exact h.statics.insertAll _
  · rw [dynamics_addEach]
    exact h.dynamics.insertAll _

/-- A filter that is made of directives is in order, and stays in order as directives are added. -/
theorem hasOrder_ofDirectives (ds : List Directive) : (ofDirectives ds).HasOrder := by
  constructor
  · rw [statics_ofDirectives]
    exact IsOrdered.insertAll List.Pairwise.nil _
  · rw [dynamics_ofDirectives]
    exact IsOrdered.insertAll List.Pairwise.nil _

/-- A choice by scope commutes with looking for the last directives. -/
theorem lastOf_filter_congr {p : Directive → Bool}
    (hp : ∀ d e : Directive, d.scope = e.scope → p d = p e)
    (h : ∀ scope, lastOf scope ds = lastOf scope es) (scope : Scope) :
    lastOf scope (ds.filter p) = lastOf scope (es.filter p) := by
  let sample : Directive :=
    { target := scope.1, span := scope.2.1, fields := scope.2.2, level := .off }
  have hsample : ∀ d : Directive, d.scope = scope → p d = p sample := fun d hd => hp d sample hd
  cases hchosen : p sample with
  | true =>
    rw [lastOf_filter fun d _ hd => (hsample d hd).trans hchosen,
      lastOf_filter fun d _ hd => (hsample d hd).trans hchosen, h]
  | false =>
    have hnone : ∀ ds : List Directive, lastOf scope (ds.filter p) = none := by
      refine fun ds => lastOf_eq_none fun d hd hscope => ?_
      have hpd := (List.mem_filter.mp hd).2
      rw [hsample d hscope, hchosen] at hpd
      cases hpd
    rw [hnone, hnone]

/-- Directives that are added count by the last of each scope only. -/
theorem HasOrder.addEach_congr (h : filter.HasOrder)
    (hlast : ∀ scope, lastOf scope ds = lastOf scope es) :
    filter.addEach ds = filter.addEach es := by
  have hstatics : (filter.addEach ds).statics = (filter.addEach es).statics := by
    rw [statics_addEach, statics_addEach]
    exact h.statics.insertAll_congr (lastOf_filter_congr (fun _ _ => isStatic_congr) hlast)
  have hdynamics : (filter.addEach ds).dynamics = (filter.addEach es).dynamics := by
    rw [dynamics_addEach, dynamics_addEach]
    refine h.dynamics.insertAll_congr (lastOf_filter_congr (fun d e hscope => ?_) hlast)
    rw [isStatic_congr hscope]
  generalize filter.addEach ds = left at hstatics hdynamics
  generalize filter.addEach es = right at hstatics hdynamics
  cases left
  cases right
  exact congrArg₂ Filter.mk hstatics hdynamics

/-- What a filter made from two sequences holds for a target is the last directive for it. -/
theorem firstOf_addEach (ds es : List Directive) (target : Option String) :
    firstOf (target, none, []) ((ofDirectives ds).addEach es).statics =
      lastOf (target, none, []) (ds ++ es) := by
  have hplain : ∀ d : Directive, d.scope = (target, none, []) → d.isDynamic = false :=
    fun d hd => isDynamic_eq_false hd
  have hnone : lastOf (target, none, []) ((ds.filter (·.isDynamic)).filter (·.isStatic)) = none := by
    refine lastOf_eq_none fun d hd hscope => ?_
    have hdynamic := (List.mem_filter.mp (List.mem_filter.mp hd).1).2
    rw [hplain d hscope] at hdynamic
    cases hdynamic
  rw [statics_addEach, statics_ofDirectives, firstOf_insertAll, firstOf_insertAll, lastOf_append,
    lastOf_append, hnone, Option.none_or,
    lastOf_filter fun d _ hd => isStatic_of_not_isDynamic (hplain d hd),
    lastOf_filter fun d _ hd => by rw [hplain d hd]; rfl]
  exact congrArg _ Option.or_none

theorem mem_of_mem_addEach
    (h : d ∈ ((ofDirectives ds).addEach es).statics ++ ((ofDirectives ds).addEach es).dynamics) :
    d ∈ ds ++ es := by
  rw [statics_addEach, dynamics_addEach, statics_ofDirectives, dynamics_ofDirectives] at h
  rcases List.mem_append.mp h with h | h <;> rcases mem_insertAll h with h | h
  · have hbase := (mem_insertAll h).resolve_left List.not_mem_nil
    simp only [List.mem_append, List.mem_filter] at hbase ⊢
    tauto
  · exact List.mem_append_right ds (List.mem_of_mem_filter h)
  · have hbase := (mem_insertAll h).resolve_left List.not_mem_nil
    exact List.mem_append_left es (List.mem_of_mem_filter hbase)
  · exact List.mem_append_right ds (List.mem_of_mem_filter h)

/-! ## The written form -/

/-- The levels that the written form of a filter gives to a target, or without a target to everything.
Pieces with a bracket are about spans and do not count. -/
def listed (target : Option String) (text : String) : List Level :=
  ((Text.pieces (· = ',') text.toList).filter ('[' ∉ ·)).filterMap fun piece =>
    Level.all.find? fun level => piece = (plain target level).render.toList

/-- What is listed of one directive: its level, if it is about the target and nothing more. -/
theorem listed_render (h : d.IsUnbroken) (target : Option String) :
    (if '[' ∉ d.render.toList then
        Level.all.find? fun level => d.render.toList = (plain target level).render.toList
      else none) =
      if d.scope = (target, none, []) then some d.level else none := by
  cases hdynamic : d.isDynamic with
  | true =>
    have hscope : d.scope ≠ (target, none, []) := by
      intro hscope
      rw [isDynamic_eq_false hscope] at hdynamic
      cases hdynamic
    rw [if_neg (not_not.mpr (bracket_mem_render hdynamic)), if_neg hscope]
  | false =>
    obtain ⟨other, level, rfl⟩ : ∃ other level, d = plain other level :=
      ⟨_, _, plain_of_not_isDynamic hdynamic⟩
    have hfound : Level.all.find? (fun other => level = other) = some level := by
      cases level <;> rfl
    have hscope : (plain other level).scope = (target, none, []) ↔ other = target := by
      simp [scope, plain]
    have hbracket : '[' ∉ (other.getD "").toList := fun hmem => (h.target _ hmem).2 rfl
    rw [if_pos (bracket_not_mem_render hbracket level)]
    simp only [String.toList_inj, render_plain_inj, hscope]
    split_ifs with hsame
    · change _ = some level
      simpa only [hsame, true_and] using hfound
    · simp [hsame]

/-- A list in order gives one level to a target at most. -/
theorem IsOrdered.filterMap_level (h : IsOrdered ds) (scope : Scope) :
    (ds.filterMap fun d => if d.scope = scope then some d.level else none) =
      ((firstOf scope ds).map (·.level)).toList := by
  induction ds with
  | nil => rfl
  | cons d ds ih =>
    obtain ⟨hd, hds⟩ := List.pairwise_cons.mp h
    rw [List.filterMap_cons, firstOf_cons]
    split_ifs with hscope
    · have hrest : (ds.filterMap fun d => if d.scope = scope then some d.level else none) = [] := by
        refine List.filterMap_eq_nil_iff.mpr fun e he => if_neg fun heq => ?_
        exact scope_ne_of_precedes (hd e he) (hscope.trans heq.symm)
      simp [hrest]
    · exact ih hds

/-- Cut at its commas, the written form gives the written directives back. -/
theorem pieces_render (h : ∀ d ∈ filter.statics ++ filter.dynamics, d.IsUnbroken) :
    Text.pieces (· = ',') filter.render.toList = [[]] ∧ filter.statics ++ filter.dynamics = [] ∨
      Text.pieces (· = ',') filter.render.toList =
        (filter.statics ++ filter.dynamics).map (·.render.toList) := by
  have hcomma : ",".toList = [','] := rfl
  rw [render, String.toList_intercalate, hcomma, List.map_map]
  by_cases hnil : filter.statics ++ filter.dynamics = []
  · rw [hnil]
    exact Or.inl ⟨rfl, rfl⟩
  · refine Or.inr (Text.pieces_intercalate (by simpa using hnil) ?_)
    intro part hpart
    obtain ⟨d, hd, rfl⟩ := List.mem_map.mp hpart
    exact (h d hd).comma_not_mem_render

/-- The written form of a filter gives to a target the level that the filter holds for it. -/
theorem HasOrder.listed_render (horder : filter.HasOrder)
    (h : ∀ d ∈ filter.statics ++ filter.dynamics, d.IsUnbroken)
    (hdynamics : ∀ d ∈ filter.dynamics, d.isDynamic = true) (target : Option String) :
    listed target filter.render =
      ((firstOf (target, none, []) filter.statics).map (·.level)).toList := by
  have hlisted : listed target filter.render = (filter.statics ++ filter.dynamics).filterMap
      fun d => if d.scope = (target, none, []) then some d.level else none := by
    unfold listed
    rcases pieces_render h with ⟨hpieces, hnil⟩ | hpieces
    · -- the written form of a filter without directives is one empty piece
      rw [hpieces, hnil]
      simp [render_plain_ne_empty]
    · rw [hpieces, List.filterMap_filter, List.filterMap_map]
      refine List.filterMap_congr fun d hd => ?_
      rw [← Filter.listed_render (h d hd) target]
      simp
  have hnone : (filter.dynamics.filterMap fun d =>
      if d.scope = (target, none, []) then some d.level else none) = [] := by
    refine List.filterMap_eq_nil_iff.mpr fun d hd => if_neg fun hscope => ?_
    have hdynamic := hdynamics d hd
    rw [isDynamic_eq_false hscope] at hdynamic
    cases hdynamic
  rw [hlisted, List.filterMap_append, hnone, List.append_nil, horder.statics.filterMap_level]

end Filter

namespace Config

open Directive Routing.Log.Filter

/-- The directive of an item of the settings, without the blanks around it. -/
def item? (item : String) : Option Directive :=
  Directive.ofText? (Text.stripWhile Text.isBlank item.toList)

/-- The directives that a filter starts from: those of `RUST_LOG`, if all of them can be read, or else
the level of the settings. -/
def base (config : Config) (environment : Environment) : List Directive :=
  ((environment "RUST_LOG").bind fun text =>
    ((Text.pieces (· = ',') text.toList).filter (!·.isEmpty)).mapM Directive.ofText?).getD
      [plain none (.ofSetting config.level)]

/-- The further directives of the settings that can be read, in order. -/
def further (config : Config) : List Directive :=
  match config.targets with
  | none => []
  | some targets =>
    (Text.pieces (· = ',') targets.toList).filterMap fun piece => item? (String.ofList piece)

/-- The settings with other further directives, given item by item. -/
def withItems (config : Config) (items : List String) : Config :=
  { config with targets := some (",".intercalate items) }

/-- The level of the last directive of a sequence for a target, or without a target for everything. -/
def lastLevel? (target : Option String) (ds : List Directive) : Option Level :=
  (lastOf (target, none, []) ds).map (·.level)

variable {config : Config} {environment : Environment} {items items' : List String} {item : String}

theorem filter_eq (config : Config) (environment : Environment) :
    config.filter environment = (ofDirectives (config.base environment)).addEach config.further := by
  have hbase : ((environment "RUST_LOG").bind Filter.ofText?).getD
      (.ofDirectives [plain none (.ofSetting config.level)]) =
        ofDirectives (config.base environment) := by
    unfold base Filter.ofText?
    cases environment "RUST_LOG" with
    | none => rfl
    | some text =>
      rw [Option.bind_some, Option.bind_some]
      cases List.mapM Directive.ofText? _ <;> rfl
  unfold Config.filter further item?
  simp only [String.toList_ofList]
  rw [← hbase]
  cases config.targets <;> rfl

theorem item?_of_trim (h : Text.trim item = "") : item? item = none := by
  have hstrip := congrArg String.toList h
  rw [Text.toList_trim] at hstrip
  rw [item?, hstrip]
  rfl

theorem further_withItems (config : Config) (h : ∀ item ∈ items, ',' ∉ item.toList) :
    (config.withItems items).further = items.filterMap item? := by
  have hcomma : ",".toList = [','] := rfl
  unfold further withItems
  dsimp only
  rw [String.toList_intercalate, hcomma]
  cases items with
  | nil => rfl
  | cons item items =>
    rw [Text.pieces_intercalate (by simp) (by simpa using h), List.filterMap_map]
    exact List.filterMap_congr fun item _ => by simp

/-! ## Commas and brackets in what is read -/

theorem isUnbroken_of_mem_further (h : d ∈ config.further) : d.IsUnbroken := by
  unfold further at h
  split at h
  · cases h
  · rename_i targets _
    obtain ⟨piece, hpiece, hitem⟩ := List.mem_filterMap.mp h
    refine isUnbroken_of_ofText? (fun hmem => ?_) hitem
    rw [String.toList_ofList] at hmem
    simpa using (Text.of_mem_pieces hpiece (Text.mem_of_mem_stripWhile hmem)).2

theorem isUnbroken_of_mem_base (h : d ∈ config.base environment) : d.IsUnbroken := by
  unfold base at h
  cases hread : (environment "RUST_LOG").bind fun text =>
      ((Text.pieces (· = ',') text.toList).filter (!·.isEmpty)).mapM Directive.ofText? with
  | none =>
    rw [hread, Option.getD_none, List.mem_singleton] at h
    subst h
    exact ⟨by simp [plain], by simp [plain], by simp [plain], by simp [plain]⟩
  | some ds =>
    rw [hread, Option.getD_some] at h
    obtain ⟨text, -, hpieces⟩ := Option.bind_eq_some_iff.mp hread
    obtain ⟨piece, hpiece, hdirective⟩ := exists_of_mem_mapM hpieces h
    refine isUnbroken_of_ofText? (fun hmem => ?_) hdirective
    simpa using (Text.of_mem_pieces (List.mem_of_mem_filter hpiece) hmem).2

/-- Nothing that has been read into a filter has a comma in its written form. -/
theorem isUnbroken_of_mem_filter
    (h : d ∈ (config.filter environment).statics ++ (config.filter environment).dynamics) :
    d.IsUnbroken := by
  rw [filter_eq] at h
  exact (List.mem_append.mp (mem_of_mem_addEach h)).elim isUnbroken_of_mem_base
    isUnbroken_of_mem_further

theorem isDynamic_of_mem_dynamics (h : d ∈ (config.filter environment).dynamics) :
    d.isDynamic = true := by
  rw [filter_eq, dynamics_addEach, dynamics_ofDirectives] at h
  rcases mem_insertAll h with h | h
  · rcases mem_insertAll h with h | h
    · cases h
    · exact (List.mem_filter.mp h).2
  · have hstatic := (List.mem_filter.mp h).2
    cases hdynamic : d.isDynamic with
    | true => rfl
    | false =>
      rw [isStatic_of_not_isDynamic hdynamic] at hstatic
      cases hstatic

/-- The written form of the filter gives to every target, and likewise to everything, the level of the
last directive for it, and that once; it gives none where there is no such directive. The directives are
those of `RUST_LOG`, if it is set and can be read, or else the level of the settings, which is `info` if
none is named there, and behind them the further ones of the settings; nothing else is written. An item
that is blank or cannot be read makes no difference, wherever it stands among the further ones, and
neither does the order of items for different targets. -/
theorem filter_lists_last (config : Config) (environment : Environment) :
    let directives := config.base environment ++ config.further
    let text := (config.filter environment).render
    (∀ target, listed target text = (lastLevel? target directives).toList) ∧
    (∀ piece ∈ Text.pieces (· = ',') text.toList, piece ≠ [] →
      ∃ d ∈ directives, piece = d.render.toList) ∧
    (∀ level, Level.ofSetting config.level = level ↔ Level.IsNamed config.level level ∨
      level = .info ∧ ∀ other, ¬ Level.IsNamed config.level other) ∧
    (∀ before item after, (∀ text ∈ before ++ item :: after, ',' ∉ text.toList) →
      (Text.trim item = "" ∨ item? item = none) →
      (config.withItems (before ++ item :: after)).filter environment =
        (config.withItems (before ++ after)).filter environment) ∧
    ∀ before items items' after, (∀ text ∈ before ++ items ++ after, ',' ∉ text.toList) →
      ((items.filterMap item?).Pairwise fun d e => d.target ≠ e.target) → items.Perm items' →
      (config.withItems (before ++ items ++ after)).filter environment =
        (config.withItems (before ++ items' ++ after)).filter environment := by
  intro directives text
  refine ⟨fun target => ?_, fun piece hpiece hne => ?_, fun level => Level.ofSetting_eq_iff, ?_, ?_⟩
  · have horder : (config.filter environment).HasOrder := by
      rw [filter_eq]
      exact (hasOrder_ofDirectives _).addEach _
    have hlisted := horder.listed_render (fun d => isUnbroken_of_mem_filter)
      (fun d => isDynamic_of_mem_dynamics) target
    rw [hlisted, filter_eq, firstOf_addEach]
    rfl
  · rcases pieces_render fun d => isUnbroken_of_mem_filter with ⟨hpieces, -⟩ | hpieces
    · rw [hpieces, List.mem_singleton] at hpiece
      exact absurd hpiece hne
    · rw [hpieces] at hpiece
      obtain ⟨d, hd, rfl⟩ := List.mem_map.mp hpiece
      rw [filter_eq] at hd
      exact ⟨d, mem_of_mem_addEach hd, rfl⟩
  · intro before item after hcommas hignored
    have hnone : item? item = none := hignored.elim item?_of_trim id
    have hrest : ∀ text ∈ before ++ after, ',' ∉ text.toList := fun text htext =>
      hcommas text (by simp only [List.mem_append, List.mem_cons] at htext ⊢; tauto)
    rw [filter_eq, filter_eq, further_withItems config hcommas, further_withItems config hrest,
      List.filterMap_append, List.filterMap_cons_none hnone, ← List.filterMap_append]
    rfl
  · intro before items items' after hcommas htargets hperm
    have hcommas' : ∀ text ∈ before ++ items' ++ after, ',' ∉ text.toList := fun text htext =>
      hcommas text (by simpa only [List.mem_append, hperm.mem_iff] using htext)
    have hscopes : (items.filterMap item?).Pairwise fun d e => d.scope ≠ e.scope :=
      htargets.imp fun hne heq => hne (congrArg Prod.fst heq)
    rw [filter_eq, filter_eq, further_withItems config hcommas, further_withItems config hcommas']
    refine (hasOrder_ofDirectives _).addEach_congr fun scope => ?_
    simp only [List.filterMap_append, lastOf_append]
    rw [lastOf_perm (hperm.filterMap item?) hscopes]

/-- Items for different targets change places, a blank one among them, behind and in front of items for
another target; and an item is left out that cannot be read. -/
theorem filter_lists_last_exchanged :
    let config : Config := { level := "chatty" }
    let environment : Environment := fun _ => none
    let items := ["b=debug", " ", "ab"]
    (items.filterMap item?).Pairwise (fun d e => d.target ≠ e.target) ∧ item? "=x" = none ∧
      (config.withItems (["a=warn"] ++ items ++ ["=x", "a"])).filter environment =
        (config.withItems ["a=warn", "ab", "b=debug", " ", "a"]).filter environment := by
  intro config environment items
  have htargets : (items.filterMap item?).Pairwise fun d e => d.target ≠ e.target := by
    decide +kernel
  have hunread : item? "=x" = none := by decide +kernel
  obtain ⟨-, -, -, hremove, hexchange⟩ := filter_lists_last config environment
  have hexchanged := hexchange ["a=warn"] items ["ab", "b=debug", " "] ["=x", "a"] (by decide +kernel)
    htargets (by decide)
  have hremoved := hremove ["a=warn", "ab", "b=debug", " "] "=x" ["a"] (by decide +kernel)
    (.inr hunread)
  exact ⟨htargets, hunread, hexchanged.trans hremoved⟩

/-- The longer target comes first and a bare level last, whatever their order was; what depends on a span
stands behind all of them. -/
example : (Config.filter { level := "chatty", targets := some "a=warn, ,ab=error,=x,a=debug" }
    fun name => if name = "RUST_LOG" then some "b[s]=info,warn,a=off" else none).render =
      "ab=error,a=debug,warn,b[s]=info" := by
  decide +kernel

end Config

end Log

end Routing
