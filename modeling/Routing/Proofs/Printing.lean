import Routing.Proofs.Defects
import Routing.Template.Pattern

/-!
# Proofs: printing and compiling

A template is a list of tokens: chunks of literal text and, between them, placeholders. It is printed
as the chunks and the bracketed placeholders one after another. Compiling what has been printed gives
back the placeholders, and an expression that can be read off the tokens. Every text whose brackets
are in order is printed from exactly one template.
-/

namespace Routing

theorem Separator.ofChar?_eq_some {c : Char} {separator : Separator} :
    ofChar? c = some separator ↔ c = separator.char := by
  constructor
  · intro h
    unfold ofChar? at h
    split_ifs at h with hslash hdot
    · obtain rfl := Option.some.inj h
      exact hslash
    · obtain rfl := Option.some.inj h
      exact hdot
  · rintro rfl
    cases separator <;> rfl

namespace Slot

/-- What is printed between the brackets. A colon without a name behind it may be left out. -/
def body (slot : Slot) (colon : Bool) : List Char :=
  if slot.name = "" ∧ colon = false then slot.code.toList
  else slot.code.toList ++ ':' :: slot.name.toList

/-- The literal text and behind it the placeholder in brackets. -/
def print (slot : Slot) (colon : Bool) : List Char :=
  slot.lead ++ '[' :: (slot.body colon ++ ']' :: Template.mark slot.optional)

end Slot

namespace Template

/-- The chunks of literal text: one in front of each placeholder, and the one at the end. -/
def chunks (template : Template) : List (List Char) :=
  template.slots.map Slot.lead ++ [template.tail]

/-- The text of the template. Whether a placeholder without a name has a colon depends on its
number. -/
def print (template : Template) (colons : Nat → Bool) : List Char :=
  (template.slots.mapIdx fun k slot => slot.print (colons k)).flatten ++ template.tail

/-- The tokens of the template can be told apart in print. -/
structure IsPrintable (template : Template) : Prop where
  /-- No bracket stands in literal text. -/
  chunks : ∀ chunk ∈ template.chunks, Unbracketed chunk
  /-- Neither a bracket nor a colon stands in a code. -/
  codes : ∀ slot ∈ template.slots, Unbracketed slot.code.toList ∧ ':' ∉ slot.code.toList
  /-- Neither a bracket nor a colon stands in a name. -/
  names : ∀ slot ∈ template.slots, Unbracketed slot.name.toList ∧ ':' ∉ slot.name.toList
  /-- The chunk behind a placeholder that is not optional does not begin with a question mark. -/
  marks : ∀ pair ∈ template.slots.zip template.chunks.tail, pair.1.optional = false →
    pair.2.head? ≠ some '?'

/-- A chunk is cut in front of its last character if this is a separator. -/
def Cut (chunk literal : List Char) (separator : Option Separator) : Prop :=
  chunk = literal ++ (separator.map Separator.char).toList ∧
    (separator = none → ∀ separator : Separator, chunk.getLast? ≠ some separator.char)

/-- The placeholders of the slots, and the expression for them: in turn the chunk in front of the
separator and a group for the separator and the value. The values are numbered from `k` on. -/
inductive Expresses : Nat → List Slot → List Placeholder → List Char → Prop where
  | nil {k : Nat} : Expresses k [] [] []
  | cons {k : Nat} {slot : Slot} {slots : List Slot} {literal later : List Char}
      {separator : Option Separator} {placeholders : List Placeholder}
      (hcut : Cut slot.lead literal separator) (h : Expresses (k + 1) slots placeholders later) :
      Expresses k (slot :: slots)
        (⟨.ofCode slot.code, separator, if slot.name = "" then none else some slot.name,
          slot.optional⟩ :: placeholders)
        (Regex.escape literal ++ "(?:".toList ++
          Regex.escape (separator.map Separator.char).toList ++
          "(?P<p".toList ++ (toString k).toList ++ ">".toList ++
          (PlaceholderKind.ofCode slot.code).fragment.toList ++ "))".toList ++ mark slot.optional ++
          later)

variable {template : Template} {slot : Slot} {slots : List Slot} {tail text body : List Char}

/-! ## Printing -/

theorem print_nil (tail : List Char) (colons : Nat → Bool) : print ⟨[], tail⟩ colons = tail := rfl

theorem print_cons (slot : Slot) (slots : List Slot) (tail : List Char) (colons : Nat → Bool) :
    print ⟨slot :: slots, tail⟩ colons = slot.lead ++ '[' :: (slot.body (colons 0) ++
      ']' :: (mark slot.optional ++ print ⟨slots, tail⟩ fun k => colons (k + 1))) := by
  simp [print, Slot.print, List.mapIdx_cons]

theorem isPrintable_nil : IsPrintable ⟨[], tail⟩ ↔ Unbracketed tail :=
  ⟨fun h => h.chunks tail (by simp [chunks]),
    fun h => ⟨by simpa [chunks] using h, by simp, by simp, by simp⟩⟩

/-- The chunk at the beginning of the print. -/
theorem head?_print (template : Template) (colons : Nat → Bool) :
    (template.print colons).head? = some '?' ↔
      ∃ chunk ∈ template.chunks.head?, chunk.head? = some '?' := by
  obtain ⟨slots, tail⟩ := template
  cases slots with
  | nil => simp [print_nil, chunks]
  | cons slot slots => cases hlead : slot.lead <;> simp [print_cons, chunks, hlead]

theorem isPrintable_cons (colons : Nat → Bool) : IsPrintable ⟨slot :: slots, tail⟩ ↔
    Unbracketed slot.lead ∧ (Unbracketed slot.code.toList ∧ ':' ∉ slot.code.toList) ∧
      (Unbracketed slot.name.toList ∧ ':' ∉ slot.name.toList) ∧
      (slot.optional = false → (print ⟨slots, tail⟩ colons).head? ≠ some '?') ∧
      IsPrintable ⟨slots, tail⟩ := by
  have hmarks : (∀ pair ∈ (slot :: slots).zip (chunks ⟨slots, tail⟩),
      pair.1.optional = false → pair.2.head? ≠ some '?') ↔
      (slot.optional = false → (print ⟨slots, tail⟩ colons).head? ≠ some '?') ∧
        ∀ pair ∈ slots.zip (chunks ⟨slots, tail⟩).tail,
          pair.1.optional = false → pair.2.head? ≠ some '?' := by
    rw [Ne, head?_print]
    cases hchunks : chunks ⟨slots, tail⟩ with
    | nil => simp [chunks] at hchunks
    | cons chunk chunks => simp
  constructor
  · intro h
    obtain ⟨hmark, hlater⟩ := hmarks.mp h.marks
    exact ⟨h.chunks slot.lead (by simp [chunks]), h.codes slot (by simp), h.names slot (by simp),
      hmark, fun chunk hchunk => h.chunks chunk (List.mem_cons_of_mem _ hchunk),
      fun slot' hslot' => h.codes slot' (List.mem_cons_of_mem _ hslot'),
      fun slot' hslot' => h.names slot' (List.mem_cons_of_mem _ hslot'), hlater⟩
  · rintro ⟨hlead, hcode, hname, hmark, h⟩
    exact ⟨List.forall_mem_cons.mpr ⟨hlead, h.chunks⟩, List.forall_mem_cons.mpr ⟨hcode, h.codes⟩,
      List.forall_mem_cons.mpr ⟨hname, h.names⟩, hmarks.mpr ⟨hmark, h.marks⟩⟩

theorem writtenAs_iff_body : slot.WrittenAs body ∧ Unbracketed body ↔
    (Unbracketed slot.code.toList ∧ ':' ∉ slot.code.toList) ∧
      (Unbracketed slot.name.toList ∧ ':' ∉ slot.name.toList) ∧ ∃ colon, body = slot.body colon := by
  have hbodies : (∃ colon, body = slot.body colon) ↔
      (slot.name = "" ∧ body = slot.code.toList) ∨
        body = slot.code.toList ++ ':' :: slot.name.toList := by
    by_cases hname : slot.name = ""
    · simp [Slot.body, hname]
    · simp [Slot.body, hname]
  have hbrackets : ∀ colon, Unbracketed (slot.body colon) ↔
      Unbracketed slot.code.toList ∧ Unbracketed slot.name.toList := by
    intro colon
    unfold Slot.body Unbracketed
    split_ifs with hname
    · simp [hname.1]
    · simp
      tauto
  rw [Slot.WrittenAs, ← hbodies]
  constructor
  · rintro ⟨⟨hcode, hname, colon, rfl⟩, h⟩
    rw [hbrackets] at h
    exact ⟨⟨h.1, hcode⟩, ⟨h.2, hname⟩, colon, rfl⟩
  · rintro ⟨⟨hcodes, hcode⟩, ⟨hnames, hname⟩, colon, rfl⟩
    exact ⟨⟨hcode, hname, colon, rfl⟩, (hbrackets colon).mpr ⟨hcodes, hnames⟩⟩

/-- A template is written in the texts that are printed from it, if its tokens can be told apart. -/
theorem written_iff_print :
    template.Written text ↔ template.IsPrintable ∧ ∃ colons, text = template.print colons := by
  obtain ⟨slots, tail⟩ := template
  induction slots generalizing text with
  | nil =>
    rw [isPrintable_nil]
    constructor
    · rintro ⟨h⟩
      exact ⟨h, fun _ => false, rfl⟩
    · rintro ⟨h, colons, rfl⟩
      exact .tail h
  | cons slot slots ih =>
    constructor
    · intro h
      cases h with
      | @slot _ _ _ body rest hlead hbody hbrackets hmark hrest =>
        obtain ⟨hlater, colons, rfl⟩ := ih.mp hrest
        obtain ⟨hcode, hname, colon, rfl⟩ := writtenAs_iff_body.mp ⟨hbody, hbrackets⟩
        -- `colon` is the choice for the first placeholder, `colons` are those for the others
        refine ⟨(isPrintable_cons colons).mpr ⟨hlead, hcode, hname, hmark, hlater⟩,
          fun k => k.casesOn colon colons, ?_⟩
        exact (print_cons _ _ _ fun k => k.casesOn colon colons).symm
    · rintro ⟨h, colons, rfl⟩
      obtain ⟨hlead, hcode, hname, hmark, hlater⟩ :=
        (isPrintable_cons fun k => colons (k + 1)).mp h
      obtain ⟨hbody, hbrackets⟩ := writtenAs_iff_body.mpr ⟨hcode, hname, colons 0, rfl⟩
      rw [print_cons]
      exact .slot hlead hbody hbrackets hmark (ih.mpr ⟨hlater, _, rfl⟩)

/-! ## The expression -/

theorem cut_iff {literal : List Char} {separator : Option Separator} :
    Cut slot.lead literal separator ↔ literal = slot.literal ∧ separator = slot.separator := by
  constructor
  · rintro ⟨hlead, hnone⟩
    have hseparator : slot.separator = separator := by
      cases separator with
      | some separator =>
        rw [Slot.separator, hlead]
        simpa using Separator.ofChar?_eq_some.mpr rfl
      | none =>
        rw [Slot.separator, Option.bind_eq_none_iff]
        refine fun c hlast => Option.eq_none_iff_forall_ne_some.mpr fun separator hc => ?_
        obtain rfl := Separator.ofChar?_eq_some.mp hc
        exact hnone rfl separator hlast
    have hliteral := slot.literal_append_separator.trans hlead
    rw [hseparator] at hliteral
    exact ⟨(List.append_cancel_right hliteral).symm, hseparator.symm⟩
  · rintro ⟨rfl, rfl⟩
    refine ⟨slot.literal_append_separator.symm, fun hnone separator hlast => ?_⟩
    rw [Slot.separator, hlast, Option.bind_some, Separator.ofChar?_eq_some.mpr rfl] at hnone
    exact absurd hnone (by simp)

theorem slotExpression_eq (slot : Slot) (k : Nat) : slotExpression slot k =
    Regex.escape slot.literal ++ "(?:".toList ++
      Regex.escape (slot.separator.map Separator.char).toList ++
      "(?P<p".toList ++ (toString k).toList ++ ">".toList ++
      (PlaceholderKind.ofCode slot.code).fragment.toList ++ "))".toList ++ mark slot.optional := by
  have hseparator : ∀ separator : Option Separator,
      ((separator.map Separator.fragment).getD "").toList =
        Regex.escape (separator.map Separator.char).toList := by
    rintro (_ | _ | _) <;> decide
  have hname : (groupName k).toList = 'p' :: (toString k).toList := by
    rw [groupName, String.toList_ofList, Nat.toString_eq_repr, Nat.toList_repr]
  rw [slotExpression, hseparator, hname, Slot.kind]
  simp [mark]

/-- The placeholders and the expression of the slots are those that can be read off them. -/
theorem expresses_iff {k : Nat} {placeholders : List Placeholder} :
    Expresses k slots placeholders text ↔
      placeholders = slots.map Slot.placeholder ∧ text = slotExpressions k slots := by
  induction slots generalizing k placeholders text with
  | nil =>
    constructor
    · rintro ⟨⟩
      exact ⟨rfl, rfl⟩
    · rintro ⟨rfl, rfl⟩
      exact .nil
  | cons slot slots ih =>
    rw [slotExpressions, slotExpression_eq]
    constructor
    · intro h
      cases h with
      | cons hcut hlater =>
        obtain ⟨rfl, rfl⟩ := cut_iff.mp hcut
        obtain ⟨rfl, rfl⟩ := ih.mp hlater
        exact ⟨rfl, rfl⟩
    · rintro ⟨rfl, rfl⟩
      exact .cons (cut_iff.mpr ⟨rfl, rfl⟩) (ih.mpr ⟨rfl, rfl⟩)

end Template

/-! ## Compiling what has been printed -/

namespace Pattern

theorem text_of_ofText? {text : String} {regex : Regex} (h : Regex.ofText? text = some regex) :
    regex.text = text := by
  obtain ⟨root, -, rfl⟩ := Option.map_eq_some_iff.mp h
  rfl

/-- A text whose brackets are in order is printed from exactly one template. -/
theorem forall_defect_iff (text : String) :
    (∀ defect, compile text = .error defect → defect = .badExpression) ↔
      ∃! template : Template,
        template.IsPrintable ∧ ∃ colons, text.toList = template.print colons := by
  simp only [← Template.written_iff_print, ← Template.ofText_eq_ok]
  cases hread : Template.ofText text with
  | error defect =>
    have hdefect : defect ≠ .badExpression := by
      rintro rfl
      exact Template.ofText_ne_badExpression text hread
    rw [compile_of_malformed hread]
    simp [ExistsUnique, hdefect]
  | ok template =>
    rw [compile_of_ofText hread]
    cases Regex.ofText? template.expression <;> simp [eq_comm]

/-- Take a template whose tokens can be told apart in print. If its expression is accepted, then what
is printed is compiled to it and to the placeholders that can be read off the tokens, whether or not
a colon is printed where a name is missing; and otherwise the expression is refused. The expression
stands between anchors and ends with the literal text behind the last placeholder. Every text whose
brackets are in order is printed from exactly one such template. -/
theorem compile_print :
    (∀ (template : Template) (colons : Nat → Bool), template.IsPrintable →
      (∃ placeholders middle, Template.Expresses 0 template.slots placeholders middle) ∧
      ∀ placeholders middle, Template.Expresses 0 template.slots placeholders middle →
        let text := String.ofList (template.print colons)
        let expression := String.ofList ('^' :: middle ++ Regex.escape template.tail ++ ['$'])
        (∀ regex, Regex.ofText? expression = some regex → ∃ pattern,
          compile text = .ok pattern ∧ pattern.placeholders = placeholders ∧
            pattern.regex = regex ∧ pattern.regex.text = expression) ∧
        (Regex.ofText? expression = none → compile text = .error .badExpression)) ∧
    ∀ text : String, (∀ defect, compile text = .error defect → defect = .badExpression) ↔
      ∃! template : Template,
        template.IsPrintable ∧ ∃ colons, text.toList = template.print colons := by
  refine ⟨fun template colons hprintable =>
    ⟨⟨_, _, Template.expresses_iff.mpr ⟨rfl, rfl⟩⟩, ?_⟩, forall_defect_iff⟩
  intro placeholders middle hexpresses text expression
  obtain ⟨rfl, rfl⟩ := Template.expresses_iff.mp hexpresses
  have hwritten : template.Written text.toList := by
    rw [String.toList_ofList]
    exact Template.written_iff_print.mpr ⟨hprintable, colons, rfl⟩
  have hexpression : template.expression = expression := rfl
  have hcompile := compile_of_ofText (Template.ofText_eq_ok.mpr hwritten)
  rw [hexpression] at hcompile
  refine ⟨fun regex hregex => ?_, fun hregex => ?_⟩
  · rw [hregex] at hcompile
    exact ⟨_, hcompile, rfl, rfl, text_of_ofText? hregex⟩
  · rw [hregex] at hcompile
    exact hcompile

/-- Placeholders next to each other, one of them without a name, and question marks in literal text
and in a name. -/
theorem compile_print_adjacent :
    let template : Template := ⟨[⟨"/a+b/".toList, "i", "id", true⟩, ⟨"?.".toList, "", "", false⟩,
      ⟨[], "x|y", "ä?", true⟩], "??".toList⟩
    template.print (· = 1) = "/a+b/[i:id]??.[:][x|y:ä?]???".toList ∧
      ∃ pattern, compile "/a+b/[i:id]??.[:][x|y:ä?]???" = .ok pattern ∧
        pattern.placeholders = [⟨.integer, some .slash, some "id", true⟩,
          ⟨.segment, some .dot, none, false⟩, ⟨.custom "x|y", none, some "ä?", true⟩] ∧
        pattern.regex.text =
          "^/a\\+b(?:/(?P<p0>[0-9]+))?\\?(?:\\.(?P<p1>[^/.]+))(?:(?P<p2>x|y))?\\?\\?$" := by
  intro template
  have hprint : template.print (· = 1) = "/a+b/[i:id]??.[:][x|y:ä?]???".toList := by decide +kernel
  have hprintable : template.IsPrintable := by
    constructor <;> simp [template, Template.chunks, Unbracketed]
  have hcompile := compile_print.1 template (· = 1) hprintable
  rw [hprint, String.ofList_toList] at hcompile
  have haccepted : (Regex.ofText? template.expression).isSome = true := by decide +kernel
  obtain ⟨regex, hregex⟩ := Option.isSome_iff_exists.mp haccepted
  obtain ⟨pattern, hpattern, hplaceholders, -, htext⟩ :=
    (hcompile.2 _ _ (Template.expresses_iff.mpr ⟨rfl, rfl⟩)).1 regex hregex
  refine ⟨hprint, pattern, hpattern, hplaceholders.trans ?_, htext.trans ?_⟩ <;> decide +kernel

end Pattern

end Routing
