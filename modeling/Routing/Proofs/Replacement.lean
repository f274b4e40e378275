import Routing.Proofs.Decomposition
import Routing.Proofs.SelfContained

/-!
# Proofs: replacing a fragment

The language of a template is put together from its literal text and from what the fragments of its
placeholders accept on their own. If all custom fragments are self-contained, the template accepts
the paths in its language. So nothing of a fragment but its language matters: a fragment may be
replaced by another one with the same language.
-/

namespace Routing

open Regex (Node)
open Regex.Parser (Piece State)

/-! ## Languages of templates -/

namespace Slot

/-- The texts that the fragment of the placeholder accepts on its own. -/
def values (slot : Slot) : Language Char :=
  {value | Regex.Accepts slot.kind.fragment value}

/-- The literal text, and behind it the separator and a value; an optional placeholder may be left
out together with its separator. -/
def language (slot : Slot) : Language Char :=
  let taken := {slot.separatorText} * slot.values
  {slot.literal} * if slot.optional then 1 + taken else taken

theorem kind_of_code {slot : Slot} {code : String} (h : code ∉ PlaceholderKind.builtInCodes) :
    Slot.kind { slot with code := code } = .custom code := by
  simp only [PlaceholderKind.builtInCodes, List.mem_cons, List.not_mem_nil, or_false, not_or] at h
  simp [Slot.kind, PlaceholderKind.ofCode, h]

end Slot

/-- The texts of the slots one after the other, and the literal text at the end. -/
def Template.language (template : Template) : Language Char :=
  (template.slots.map Slot.language).prod * {template.tail}

namespace Slot

variable (slot : Slot) (k index : Nat) (body : Node)

theorem language_group : (slot.group k index body).language =
    {slot.separatorText} * body.language := by
  unfold group separatorText
  cases slot.separator with
  | none =>
    change body.language = 1 * body.language
    rw [one_mul]
  | some separator =>
    change (Node.char separator.char).language * body.language = {[separator.char]} * body.language
    rw [Node.language_char]

theorem isFree_group : (slot.group k index body).isFree = body.isFree := by
  unfold group
  cases slot.separator <;> rfl

theorem isFree_node : (slot.node k index body).isFree = body.isFree := by
  unfold node
  split_ifs
  · exact slot.isFree_group k index body
  · exact slot.isFree_group k index body

/-- A slot contributes its language to that of the template. -/
theorem prod_language_nodes (hbody : body.language = slot.values) :
    ((slot.nodes k index body).map Node.language).prod = slot.language := by
  rw [nodes, List.map_append, List.prod_append, Node.language_chars, List.map_singleton,
    List.prod_singleton, language, node]
  split_ifs with hoptional
  · change {slot.literal} * (_ ^ 0 * Regex.atMost (slot.group k index body).language 1) = _
    rw [pow_zero, one_mul, Regex.atMost, Regex.atMost, mul_one, language_group, hbody]
  · rw [language_group, hbody]

end Slot

/-- Codes matter for the language only by the values they stand for. -/
theorem Slot.language_congr {slot : Slot} {code code' : String}
    (h : Slot.values { slot with code := code } = Slot.values { slot with code := code' }) :
    Slot.language { slot with code := code } = Slot.language { slot with code := code' } := by
  unfold Slot.language
  rw [h]
  rfl

namespace Template

variable {progress : Slot → State} {slots : List Slot}

theorem language_congr (front back : List Slot) (tail : List Char) {slot slot' : Slot}
    (h : slot.language = slot'.language) :
    language ⟨front ++ slot :: back, tail⟩ = language ⟨front ++ slot' :: back, tail⟩ := by
  unfold language
  rw [List.map_append, List.map_append, List.map_cons, List.map_cons, h]

theorem prod_language_nodes (k count : Nat)
    (hvalues : ∀ slot ∈ slots, (progress slot).level.body.node.language = slot.values) :
    ((nodes progress k count slots).map Node.language).prod =
      (slots.map Slot.language).prod := by
  induction slots generalizing k count with
  | nil => rfl
  | cons slot slots ih =>
    have hslot : ((progress slot).level.body.node.shift (count + 1)).language = slot.values := by
      rw [Node.language_shift]
      exact hvalues slot (by simp)
    have hslots := ih (k + 1) (count + 1 + (progress slot).count)
      fun slot' hslot' => hvalues slot' (by simp [hslot'])
    rw [nodes, List.map_append, List.prod_append, slot.prod_language_nodes k (count + 1) _ hslot,
      hslots, List.map_cons, List.prod_cons]

theorem isFree_of_mem_nodes {node : Node} (k count : Nat)
    (hfree : ∀ slot ∈ slots, (progress slot).level.body.node.isFree = true)
    (hnode : node ∈ nodes progress k count slots) : node.isFree = true := by
  induction slots generalizing k count with
  | nil => simp [nodes] at hnode
  | cons slot slots ih =>
    rw [nodes, Slot.nodes, List.append_assoc] at hnode
    rcases List.mem_append.mp hnode with hliteral | hnode
    · obtain ⟨c, -, rfl⟩ := List.mem_map.mp hliteral
      rfl
    · rcases List.mem_cons.mp hnode with rfl | hlater
      · rw [Slot.isFree_node, Node.isFree_shift]
        exact hfree slot (by simp)
      · exact ih (k + 1) _ (fun slot' hslot' => hfree slot' (by simp [hslot'])) hlater

/-- A template all whose fragments are free accepts the paths in its language. -/
theorem isSome_search_root_iff {template : Template} {path : List Char}
    (hfree : ∀ slot ∈ template.slots, (progress slot).level.body.node.isFree = true)
    (hvalues : ∀ slot ∈ template.slots,
      (progress slot).level.body.node.language = slot.values) :
    ((template.root progress).search path).isSome = true ↔ path ∈ template.language := by
  have hitems : ∀ node ∈ template.items progress, node.isFree = true := by
    intro node hnode
    rcases List.mem_append.mp hnode with hslots | htail
    · exact isFree_of_mem_nodes 0 0 hfree hslots
    · obtain ⟨c, -, rfl⟩ := List.mem_map.mp htail
      rfl
  have hlanguage : ((template.items progress).map Node.language).prod = template.language := by
    rw [items, List.map_append, List.prod_append, prod_language_nodes 0 0 hvalues,
      Node.language_chars, language]
  rw [root, Node.isSome_search_anchored hitems, hlanguage]

end Template

/-! ## Compiled templates -/

namespace Pattern

variable {text text' : String} {pattern : Pattern}

/-- The pattern is what the template in the text is compiled to, unless the expression is too
large. -/
def CompilesUpToSize (text : String) (pattern : Pattern) : Prop :=
  ∃ template piece, Template.ofText text = .ok template ∧
    Regex.Parser.read? template.expression.toList = some piece ∧
    pattern = ⟨template.slots, ⟨template.expression, piece.node⟩⟩ ∧
    compile text = if piece.Fits then .ok pattern else .error .badExpression

theorem CompilesUpToSize.eq_of_compile {other : Pattern} (h : CompilesUpToSize text pattern)
    (hcompile : compile text = .ok other) : other = pattern := by
  obtain ⟨template, piece, -, -, -, heq⟩ := h
  rw [hcompile] at heq
  split_ifs at heq
  exact Except.ok.inj heq

theorem compilesUpToSize_of_read? {template : Template} {piece : Piece}
    (htemplate : Template.ofText text = .ok template)
    (hread : Regex.Parser.read? template.expression.toList = some piece) :
    CompilesUpToSize text ⟨template.slots, ⟨template.expression, piece.node⟩⟩ := by
  refine ⟨template, piece, htemplate, hread, rfl, ?_⟩
  have hregex : Regex.ofText? template.expression =
      if piece.Fits then some ⟨template.expression, piece.node⟩ else none := by
    rw [Regex.ofText?, Regex.Parser.parse?_eq_bind, hread, Option.bind_some]
    split_ifs <;> rfl
  rw [compile_of_ofText htemplate, hregex]
  split_ifs <;> rfl

/-- A template all whose custom fragments are self-contained compiles and accepts the paths in its
language. -/
theorem exists_isMatch_iff_language {template : Template}
    (htemplate : Template.ofText text = .ok template)
    (hfragments : ∀ slot ∈ template.slots, ∀ fragment, slot.kind = .custom fragment →
      Regex.IsSelfContained fragment) :
    ∃ pattern, CompilesUpToSize text pattern ∧
      ∀ path, pattern.isMatch path = true ↔ path.toList ∈ template.language := by
  have hcontained : ∀ slot ∈ template.slots, Regex.IsSelfContained slot.kind.fragment := by
    intro slot hslot
    cases hkind : slot.kind with
    | custom fragment => exact hfragments slot hslot fragment hkind
    | _ => exact Regex.isSelfContained_builtIn fun fragment => by simp
  have hprogress := fun slot hslot => (hcontained slot hslot).exists_progress
  have : Nonempty State := ⟨{}⟩
  choose! progress halone hfree haccepts using hprogress
  have hvalues : ∀ slot ∈ template.slots,
      (progress slot).level.body.node.language = slot.values := by
    intro slot hslot
    ext value
    exact haccepts slot hslot value
  obtain ⟨piece, hread, hroot⟩ := Regex.Parser.read?_expression progress halone
  refine ⟨_, compilesUpToSize_of_read? htemplate hread, fun path => ?_⟩
  rw [isMatch, Regex.search, hroot]
  exact Template.isSome_search_root_iff hfree hvalues

/-- Two templates that differ in the fragment of one placeholder, where the one fragment accepts what
the other accepts and all custom fragments are self-contained, both compile and accept the same
paths. These are the paths in the language of the template, which is put together from the literal
text and what each fragment accepts on its own. -/
theorem isMatch_replace_fragment {front back : List Slot} {slot : Slot} {tail : List Char}
    {first second : String}
    (htext : Template.ofText text = .ok ⟨front ++ { slot with code := first } :: back, tail⟩)
    (htext' : Template.ofText text' = .ok ⟨front ++ { slot with code := second } :: back, tail⟩)
    (hfirst : first ∉ PlaceholderKind.builtInCodes)
    (hsecond : second ∉ PlaceholderKind.builtInCodes)
    (hcontained : Regex.IsSelfContained first) (hcontained' : Regex.IsSelfContained second)
    (hothers : ∀ other ∈ front ++ back, ∀ fragment, other.kind = .custom fragment →
      Regex.IsSelfContained fragment)
    (hsame : ∀ value, Regex.Accepts first value ↔ Regex.Accepts second value) :
    ∃ pattern pattern', CompilesUpToSize text pattern ∧ CompilesUpToSize text' pattern' ∧
      ∀ path, pattern.isMatch path = pattern'.isMatch path ∧
        (pattern.isMatch path = true ↔ path.toList ∈
          Template.language ⟨front ++ { slot with code := first } :: back, tail⟩) := by
  have hall : ∀ {code : String}, code ∉ PlaceholderKind.builtInCodes →
      Regex.IsSelfContained code → ∀ other ∈ front ++ { slot with code := code } :: back,
        ∀ fragment, other.kind = .custom fragment → Regex.IsSelfContained fragment := by
    intro code hcode hself other hother fragment hfragment
    rcases List.mem_append.mp hother with hfront | hother
    · exact hothers other (List.mem_append_left _ hfront) fragment hfragment
    · rcases List.mem_cons.mp hother with rfl | hback
      · rw [Slot.kind_of_code hcode] at hfragment
        obtain rfl := PlaceholderKind.custom.inj hfragment
        exact hself
      · exact hothers other (List.mem_append_right _ hback) fragment hfragment
  obtain ⟨pattern, hpattern, hmatch⟩ :=
    exists_isMatch_iff_language htext (hall hfirst hcontained)
  obtain ⟨pattern', hpattern', hmatch'⟩ :=
    exists_isMatch_iff_language htext' (hall hsecond hcontained')
  have hvalues : Slot.values { slot with code := first } =
      Slot.values { slot with code := second } := by
    ext value
    unfold Slot.values
    rw [Slot.kind_of_code hfirst, Slot.kind_of_code hsecond]
    exact hsame value
  have hlanguage := Template.language_congr front back tail (Slot.language_congr hvalues)
  refine ⟨pattern, pattern', hpattern, hpattern', fun path => ⟨?_, hmatch path⟩⟩
  rw [Bool.eq_iff_iff, hmatch path, hmatch' path, hlanguage]

/-- Neither the order of alternatives nor a flag in one fragment matters to the placeholder behind
it. -/
theorem isMatch_replace_fragment_alternatives :
    ∃ pattern pattern', compile "/[en|fr:lang]/[i:id]?" = .ok pattern ∧
      compile "/[(?U)fr|en:lang]/[i:id]?" = .ok pattern' ∧
      ∀ path, pattern.isMatch path = pattern'.isMatch path := by
  have hfirst : Regex.ofText? "en|fr" = some ⟨"en|fr",
      .alt (.cat (.char 'e') (.char 'n')) (.cat (.char 'f') (.char 'r'))⟩ := by decide +kernel
  have hsecond : Regex.ofText? "(?U)fr|en" = some ⟨"(?U)fr|en",
      .alt (.cat (.cat .empty (.char 'f')) (.char 'r')) (.cat (.char 'e') (.char 'n'))⟩ := by
    decide +kernel
  have hsame : ∀ value, Regex.Accepts "en|fr" value ↔ Regex.Accepts "(?U)fr|en" value := by
    intro value
    have hlanguage : (Node.char 'e').language * (Node.char 'n').language +
        (Node.char 'f').language * (Node.char 'r').language =
          1 * (Node.char 'f').language * (Node.char 'r').language +
            (Node.char 'e').language * (Node.char 'n').language := by
      rw [one_mul, add_comm]
    rw [Regex.accepts_iff hfirst rfl, Regex.accepts_iff hsecond rfl]
    exact iff_of_eq (congrArg (value ∈ ·) hlanguage)
  obtain ⟨pattern, hcompile, -⟩ := exists_of_compile "/[en|fr:lang]/[i:id]?" (fun _ => ())
    (show _ = some () by decide +kernel)
  obtain ⟨pattern', hcompile', -⟩ := exists_of_compile "/[(?U)fr|en:lang]/[i:id]?" (fun _ => ())
    (show _ = some () by decide +kernel)
  obtain ⟨_, _, hpattern, hpattern', hmatch⟩ :=
    @isMatch_replace_fragment "/[en|fr:lang]/[i:id]?" "/[(?U)fr|en:lang]/[i:id]?" []
      [⟨['/'], "i", "id", true⟩] ⟨['/'], "", "lang", false⟩ [] "en|fr" "(?U)fr|en"
      (by decide +kernel) (by decide +kernel) (by decide) (by decide) (by decide +kernel)
      (by decide +kernel) (by simp [Slot.kind, PlaceholderKind.ofCode]) hsame
  obtain rfl := hpattern.eq_of_compile hcompile
  obtain rfl := hpattern'.eq_of_compile hcompile'
  exact ⟨pattern, pattern', hcompile, hcompile', fun path => (hmatch path).1⟩

end Pattern

end Routing
