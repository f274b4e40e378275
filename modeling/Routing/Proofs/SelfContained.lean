import Routing.Proofs.Assembly
import Routing.Proofs.Repetition

/-!
# Proofs: self-contained fragments

A self-contained fragment is a regular expression by itself, without named groups, without conditions
on positions, and with the flag `x` off throughout. What it accepts on its own is a language, and in
a template it stands alone. Whether a fragment is self-contained can be computed: the states that
the reader goes through are finitely many.
-/

namespace Routing.Regex

/-- A fragment that depends on nothing around it. -/
structure IsSelfContained (fragment : String) : Prop where
  /-- It is a regular expression by itself, and no condition on a position is left in it. -/
  valid : ∃ regex, ofText? fragment = some regex ∧ regex.root.isFree = true
  /-- None of its groups has a name. -/
  unnamed : ∀ {s : Parser.State} {rest : List Char}, Parser.Reads {} fragment.toList s rest →
    s.names = []
  /-- The flag `x` is nowhere on. -/
  plain : ∀ {s : Parser.State} {rest : List Char}, Parser.Reads {} fragment.toList s rest →
    s.level.flags.verbose = false

/-- By itself the fragment is a regular expression that matches the text from the beginning to the
end. -/
def Accepts (fragment : String) (text : List Char) : Prop :=
  ∃ regex, ofText? fragment = some regex ∧ (regex.root.anchored.search text).isSome = true

/-! ## The states on the way -/

namespace Parser

variable {s s' final : State} {cs rest : List Char} {fuel : Nat}

/-- The states that the reader goes through. -/
def State.trace : Nat → State → List Char → List State
  | 0, _, _ => []
  | fuel + 1, s, cs =>
    s :: match skip s.level.flags cs with
      | [] => []
      | ahead =>
        match s.step ahead with
        | none => []
        | some (s₁, cs₁) => trace fuel s₁ cs₁

theorem State.trace_of_step {c : Char} {ahead cs₁ : List Char} {s₁ : State}
    (hskip : skip s.level.flags cs = c :: ahead) (hstep : s.step (c :: ahead) = some (s₁, cs₁)) :
    s.trace (fuel + 1) cs = s :: s₁.trace fuel cs₁ := by
  rw [trace, hskip]
  simp only [hstep]

theorem exists_reads_of_mem_trace (h : s' ∈ s.trace fuel cs) : ∃ rest, Reads s cs s' rest := by
  induction fuel generalizing s cs with
  | zero => simp [State.trace] at h
  | succ fuel ih =>
    rcases List.mem_cons.mp h with rfl | h
    · exact ⟨cs, .refl _ cs⟩
    · cases hskip : skip s.level.flags cs with
      | nil => simp [hskip] at h
      | cons c ahead =>
        cases hstep : s.step (c :: ahead) with
        | none => simp [hskip, hstep] at h
        | some x =>
          obtain ⟨s₁, cs₁⟩ := x
          simp only [hskip, hstep] at h
          obtain ⟨rest, hreads⟩ := ih h
          exact ⟨rest, .token hskip hstep hreads⟩

theorem Reads.mem_trace (h : Reads s cs s' rest) (hfuel : cs.length < fuel) :
    s' ∈ s.trace fuel cs := by
  induction h generalizing fuel with
  | refl s cs =>
    obtain ⟨fuel, rfl⟩ := Nat.exists_eq_succ_of_ne_zero (Nat.ne_zero_of_lt hfuel)
    exact List.mem_cons_self
  | token hskip hstep _ ih =>
    obtain ⟨fuel, rfl⟩ := Nat.exists_eq_succ_of_ne_zero (Nat.ne_zero_of_lt hfuel)
    -- the token takes a character, so the fuel left is enough for what is left
    have hless := length_lt_of_step hskip hstep
    rw [State.trace_of_step hskip hstep]
    exact List.mem_cons_of_mem _ (ih (by omega))

/-- A successful run comes to its last state when nothing but blanks is left. -/
theorem exists_reads_of_run (hrun : s.run fuel cs = some final) :
    ∃ rest, Reads s cs final rest := by
  induction fuel generalizing s cs with
  | zero => simp [State.run] at hrun
  | succ fuel ih =>
    rw [State.run] at hrun
    cases hskip : skip s.level.flags cs with
    | nil =>
      rw [hskip] at hrun
      obtain rfl := Option.some.inj hrun
      exact ⟨cs, .refl _ _⟩
    | cons c ahead =>
      rw [hskip] at hrun
      obtain ⟨⟨s₁, cs₁⟩, hstep, hrun₁⟩ := Option.bind_eq_some_iff.mp hrun
      obtain ⟨rest, hreads⟩ := ih hrun₁
      exact ⟨rest, .token hskip hstep hreads⟩

end Parser

theorem isSelfContained_iff {fragment : String} : IsSelfContained fragment ↔
    (ofText? fragment).any (·.root.isFree) = true ∧
      ∀ s ∈ Parser.State.trace (fragment.toList.length + 1) {} fragment.toList,
        s.names = [] ∧ s.level.flags.verbose = false := by
  constructor
  · intro h
    refine ⟨?_, fun s hs => ?_⟩
    · obtain ⟨regex, hregex, hfree⟩ := h.valid
      rw [hregex]
      exact hfree
    · obtain ⟨rest, hreads⟩ := Parser.exists_reads_of_mem_trace hs
      exact ⟨h.unnamed hreads, h.plain hreads⟩
  · rintro ⟨hvalid, htrace⟩
    have hfuel := Nat.lt_succ_self fragment.toList.length
    have hreached : ∀ {s rest}, Parser.Reads {} fragment.toList s rest →
        s.names = [] ∧ s.level.flags.verbose = false :=
      fun hreads => htrace _ (hreads.mem_trace hfuel)
    refine ⟨?_, fun hreads => (hreached hreads).1, fun hreads => (hreached hreads).2⟩
    cases hregex : ofText? fragment with
    | none => simp [hregex] at hvalid
    | some regex => exact ⟨regex, rfl, by simpa [hregex] using hvalid⟩

instance decidableIsSelfContained (fragment : String) : Decidable (IsSelfContained fragment) :=
  decidable_of_iff _ isSelfContained_iff.symm

example : IsSelfContained "(?i)ab|(c.)*?" ∧ ¬ IsSelfContained "a$" ∧
    ¬ IsSelfContained "(?P<y>a)" ∧ ¬ IsSelfContained "a(?x) #" := by
  decide +kernel

/-- The fragments of the built-in kinds are self-contained. -/
theorem isSelfContained_builtIn {kind : PlaceholderKind} (h : kind.IsBuiltIn) :
    IsSelfContained kind.fragment := by
  cases kind with
  | custom fragment => exact absurd rfl (h fragment)
  | _ => decide +kernel

/-! ## What a self-contained fragment is in a template -/

/-- On its own a free expression accepts its language. -/
theorem Node.isSome_search_anchored_node {node : Node} (h : node.isFree = true)
    (text : List Char) : (node.anchored.search text).isSome = true ↔ text ∈ node.language := by
  have hall : ∀ other ∈ [node], other.isFree = true := by simpa using h
  have hanchored := isSome_search_anchored hall text
  rwa [List.map_singleton, List.prod_singleton] at hanchored

theorem accepts_iff {fragment : String} {regex : Regex} (h : ofText? fragment = some regex)
    (hfree : regex.root.isFree = true) (text : List Char) :
    Accepts fragment text ↔ text ∈ regex.root.language := by
  rw [← Node.isSome_search_anchored_node hfree]
  constructor
  · rintro ⟨other, hother, hfound⟩
    obtain rfl := Option.some.inj (h.symm.trans hother)
    exact hfound
  · intro hfound
    exact ⟨regex, h, hfound⟩

/-- The progress made with a self-contained fragment on its own: it stands alone, and the words of
its tree are what the fragment accepts. -/
theorem IsSelfContained.exists_progress {fragment : String} (h : IsSelfContained fragment) :
    ∃ inner, Parser.StandsAlone fragment.toList inner ∧ inner.level.body.node.isFree = true ∧
      ∀ text, text ∈ inner.level.body.node.language ↔ Accepts fragment text := by
  obtain ⟨regex, hregex, hfree⟩ := h.valid
  obtain ⟨root, hparse, hroot⟩ := Option.map_eq_some_iff.mp hregex
  obtain ⟨inner, hrun, houter, -, -, rfl⟩ := Parser.parse?_eq_some.mp hparse
  obtain ⟨rest, hreads⟩ := Parser.exists_reads_of_run hrun
  have halone : Parser.StandsAlone fragment.toList inner :=
    ⟨houter, h.unnamed hreads, h.plain hreads,
      Parser.reads_of_run hrun fun _ _ hreached => h.plain hreached⟩
  subst hroot
  exact ⟨inner, halone, hfree, fun text => (accepts_iff hregex hfree text).symm⟩

end Routing.Regex
