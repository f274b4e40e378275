import Routing.Proofs.Matching
import Routing.Proofs.TemplateText

/-!
# Proofs: accepted paths

A template whose placeholders are all of built-in kinds accepts exactly the paths that can be
decomposed into its literal text and values of its placeholders.
-/

namespace Routing

namespace Template

variable {template : Template} {text : List Char}

/-- Something is found exactly in the texts that have a decomposition. -/
theorem isSome_search_root :
    ((template.root builtIn).search text).isSome = true ↔
      ∃ shares, Decomposes template.tail template.slots shares text := by
  have hsearch := congrArg Option.isSome (template.search_root text)
  rw [Option.isSome_map, Option.isSome_map] at hsearch
  simp only [hsearch, ← mem_splits]
  cases splits template.tail template.slots text with
  | nil => simp
  | cons shares more => exact iff_of_true rfl ⟨shares, List.mem_cons_self⟩

theorem decomposes_nil {tail : List Char} {shares : List (Option (List Char))} :
    Decomposes tail [] shares text ↔ shares = [] ∧ text = tail := by
  constructor
  · rintro ⟨⟩
    exact ⟨rfl, rfl⟩
  · rintro ⟨rfl, rfl⟩
    exact .tail

end Template

namespace Pattern

variable {text : String} {pattern : Pattern}

/-- A template with codes of built-in kinds alone accepts a path exactly if the path is the
template's literal text with a value, separator in front, in the place of every placeholder; an
optional placeholder may be left out. The template is the only one that is written in the text.
Without placeholders it accepts itself alone, and nothing is captured. -/
theorem isMatch_iff_decomposes (h : compile text = .ok pattern)
    (hcodes : ∀ slot ∈ pattern.slots, slot.code ∈ PlaceholderKind.builtInCodes) :
    ∃ template : Template, (∀ other : Template, other.Written text.toList ↔ other = template) ∧
      pattern.slots = template.slots ∧
      (∀ path, (pattern.isMatch path = true ↔
        ∃ shares, Template.Decomposes template.tail template.slots shares path.toList) ∧
          ((pattern.captures path).isSome = true ↔
        ∃ shares, Template.Decomposes template.tail template.slots shares path.toList)) ∧
      (Unbracketed text.toList →
        ∀ path, pattern.captures path = if path = text then some [] else none) := by
  obtain ⟨template, htemplate, hslots, hroot⟩ := root_of_builtIn h hcodes
  have hwritten := Template.ofText_eq_ok.mp htemplate
  have hunique : ∀ other : Template, other.Written text.toList ↔ other = template := by
    intro other
    rw [← Template.ofText_eq_ok, htemplate, Except.ok.injEq, eq_comm]
  have hmatch : ∀ path, pattern.isMatch path = true ↔
      ∃ shares, Template.Decomposes template.tail template.slots shares path.toList := by
    intro path
    rw [isMatch, Regex.search, hroot]
    exact Template.isSome_search_root
  refine ⟨template, hunique, hslots, fun path => ⟨hmatch path, ?_⟩, fun hbare path => ?_⟩
  · rw [isSome_captures]
    exact hmatch path
  · obtain rfl := (hunique ⟨[], text.toList⟩).mp (.tail hbare)
    have hpath : pattern.isMatch path = true ↔ path = text := by
      rw [hmatch]
      simp [Template.decomposes_nil, String.toList_inj]
    split_ifs with heq
    · obtain ⟨found, hfound⟩ := Option.isSome_iff_exists.mp (hpath.mpr heq)
      rw [captures, hfound, hslots]
      rfl
    · rw [← Option.not_isSome_iff_eq_none, isSome_captures]
      exact mt hpath.mp heq

/-- A separator is left out together with its placeholder, and only then. -/
theorem isMatch_iff_decomposes_optional :
    ∃ pattern, compile "/n/[i:id]?" = .ok pattern ∧ pattern.isMatch "/n/42" = true ∧
      pattern.isMatch "/n" = true ∧ ¬ pattern.isMatch "/n/" = true := by
  obtain ⟨pattern, hcompile, hslots⟩ := exists_of_compile "/n/[i:id]?" slots
    (show _ = some [⟨['/', 'n', '/'], "i", "id", true⟩] by decide +kernel)
  obtain ⟨template, hwritten, -, hmatch, -⟩ := isMatch_iff_decomposes hcompile (by
    rw [hslots]
    decide)
  obtain rfl := (hwritten ⟨[⟨['/', 'n', '/'], "i", "id", true⟩], []⟩).mp
    (Template.ofText_eq_ok.mp (by decide +kernel))
  have hmatch := fun path => (hmatch path).1
  refine ⟨pattern, hcompile, ?_⟩
  simp only [hmatch, ← Template.mem_splits]
  refine ⟨⟨[some ['4', '2']], ?_⟩, ⟨[none], ?_⟩, ?_⟩
  · decide +kernel
  · decide +kernel
  · rintro ⟨shares, hshares⟩
    exact absurd hshares (by
      rw [show Template.splits _ _ _ = [] from by decide +kernel]
      simp)

end Pattern

end Routing
