import Routing.Template.Basic
import Mathlib.Data.List.TakeWhile
import Mathlib.Tactic.Common

/-!
# Proofs: templates and their texts

A template is read from exactly the texts in which it is written, and every text writes at most one
template.
-/

namespace Routing

/-- The text holds no bracket. -/
def Unbracketed (text : List Char) : Prop :=
  '[' ∉ text ∧ ']' ∉ text

namespace Slot

/-- What stands in the brackets of the placeholder: its code, and behind a colon its name, which may
be missing if it is empty. -/
def WrittenAs (slot : Slot) (body : List Char) : Prop :=
  ':' ∉ slot.code.toList ∧ ':' ∉ slot.name.toList ∧
    ((slot.name = "" ∧ body = slot.code.toList) ∨
      body = slot.code.toList ++ ':' :: slot.name.toList)

end Slot

namespace Template

/-- The question mark behind the brackets of an optional placeholder. -/
def mark (optional : Bool) : List Char :=
  if optional then ['?'] else []

/-- The text in which a template is written. No question mark follows the brackets of a placeholder
that is not optional. -/
inductive Written : Template → List Char → Prop where
  /-- No placeholder is left. -/
  | tail {tail : List Char} (h : Unbracketed tail) : Written ⟨[], tail⟩ tail
  /-- The first placeholder, with the literal text in front of it. -/
  | slot {slot : Slot} {slots : List Slot} {tail body rest : List Char}
      (hlead : Unbracketed slot.lead) (hbody : slot.WrittenAs body) (hbrackets : Unbracketed body)
      (hmark : slot.optional = false → rest.head? ≠ some '?') (h : Written ⟨slots, tail⟩ rest) :
      Written ⟨slot :: slots, tail⟩
        (slot.lead ++ '[' :: (body ++ ']' :: (mark slot.optional ++ rest)))

/-! ## Bodies -/

variable {body rest cs : List Char} {optional : Bool} {template : Template} {c : Char}

/-- A text is cut at the first stop. -/
theorem cutAt_append_cons {stop : Char} {before after : List Char} (h : stop ∉ before) :
    Text.cutAt (· = stop) (before ++ stop :: after) = (before, some after) := by
  induction before with
  | nil => simp [Text.cutAt]
  | cons c before ih =>
    simp only [List.mem_cons, not_or] at h
    simp [Text.cutAt, Ne.symm h.1, ih h.2]

theorem cutAt_eq_self {stop : Char} {text : List Char} (h : stop ∉ text) :
    Text.cutAt (· = stop) text = (text, none) := by
  induction text with
  | nil => rfl
  | cons c text ih =>
    simp only [List.mem_cons, not_or] at h
    simp [Text.cutAt, Ne.symm h.1, ih h.2]

/-- The slot that is read from a body. -/
def slotOf (body : List Char) (optional : Bool) : Slot :=
  ⟨[], String.ofList (Text.cutAt (· = ':') body).1,
    String.ofList ((Text.cutAt (· = ':') body).2.getD []), optional⟩

/-- A body is in order if there is no bracket in it and one colon at most. -/
theorem bodyDefect?_eq_none (start : Nat) :
    bodyDefect? start body = none ↔ '[' ∉ body ∧ body.count ':' ≤ 1 := by
  unfold bodyDefect?
  split_ifs with h₁ h₂ <;> simp [h₁] <;> omega

theorem colon_not_mem_fst_cutAt (body : List Char) : ':' ∉ (Text.cutAt (· = ':') body).1 := by
  rw [Text.fst_cutAt]
  intro h
  simpa using List.mem_takeWhile_imp h

/-- A body with at most one colon describes one slot. -/
theorem writtenAs_iff {slot : Slot} (hlead : slot.lead = []) :
    slot.WrittenAs body ↔ body.count ':' ≤ 1 ∧ slot = slotOf body slot.optional := by
  obtain ⟨lead, code, name, optional⟩ := slot
  obtain rfl : lead = [] := hlead
  simp only [Slot.WrittenAs, slotOf, Slot.mk.injEq, true_and, and_true]
  constructor
  · rintro ⟨hcode, hname, ⟨rfl, rfl⟩ | rfl⟩
    · simp [cutAt_eq_self hcode, List.count_eq_zero.mpr hcode]
    · simp [cutAt_append_cons hcode, List.count_append, List.count_eq_zero.mpr hcode,
        List.count_eq_zero.mpr hname]
  · rintro ⟨hcount, rfl, rfl⟩
    have hbefore := colon_not_mem_fst_cutAt body
    have hspec := Text.cutAt_spec (· = ':') body
    revert hbefore hspec
    rcases Text.cutAt (· = ':') body with ⟨before, _ | after⟩
    · rintro hbefore rfl
      simp [hbefore]
    · rintro hbefore ⟨c, hc, rfl⟩
      obtain rfl : c = ':' := by simpa using hc
      have hafter : ':' ∉ after := by
        rw [List.count_append, List.count_cons_self] at hcount
        exact List.count_eq_zero.mp (by omega)
      simp [hbefore, hafter]

/-! ## The cases of a text -/

theorem written_nil : template.Written [] ↔ template = ⟨[], []⟩ := by
  constructor
  · intro h
    generalize hcs : ([] : List Char) = cs at h
    cases h with
    | tail => rfl
    | slot => simp at hcs
  · rintro rfl
    exact .tail (by simp [Unbracketed])

theorem not_written_close : ¬ template.Written (']' :: cs) := by
  intro h
  generalize hcs : ']' :: cs = text at h
  cases h with
  | tail h =>
    subst hcs
    exact h.2 (by simp)
  | @slot slot _ _ _ _ hlead =>
    cases hl : slot.lead with
    | nil => simp [hl] at hcs
    | cons d lead =>
      rw [hl, List.cons_append] at hcs
      obtain ⟨rfl, -⟩ := List.cons.inj hcs
      exact hlead.2 (by simp [hl])

/-- A character outside of brackets belongs to the literal text. -/
theorem written_cons (hopen : c ≠ '[') (hclose : c ≠ ']') :
    template.Written (c :: cs) ↔ ∃ later, template = consChar c later ∧ later.Written cs := by
  constructor
  · intro h
    generalize hcs : c :: cs = text at h
    cases h with
    | tail h =>
      subst hcs
      exact ⟨⟨[], cs⟩, rfl, .tail ⟨fun hc => h.1 (by simp [hc]), fun hc => h.2 (by simp [hc])⟩⟩
    | @slot slot slots tail body rest hlead hbody hbrackets hmark h =>
      obtain ⟨lead, code, name, optional⟩ := slot
      cases lead with
      | nil =>
        obtain ⟨rfl, -⟩ := List.cons.inj hcs
        exact absurd rfl hopen
      | cons d lead =>
        obtain ⟨rfl, rfl⟩ := List.cons.inj hcs
        refine ⟨⟨⟨lead, code, name, optional⟩ :: slots, tail⟩, rfl, ?_⟩
        exact .slot ⟨fun hc => hlead.1 (by simp [hc]), fun hc => hlead.2 (by simp [hc])⟩ hbody
          hbrackets hmark h
  · rintro ⟨later, rfl, h⟩
    cases h with
    | tail h => exact .tail ⟨by simp [h.1, Ne.symm hopen], by simp [h.2, Ne.symm hclose]⟩
    | @slot slot slots tail body rest hlead hbody hbrackets hmark h =>
      exact .slot
        ⟨by simp [hlead.1, Ne.symm hopen], by simp [hlead.2, Ne.symm hclose]⟩ hbody hbrackets
        hmark h

/-- A text behind an opening bracket, `read` of the body being in front of it. -/
def WrittenBehind (read : List Char) (template : Template) (cs : List Char) : Prop :=
  ∃ body optional rest later, cs = body ++ ']' :: (mark optional ++ rest) ∧ ']' ∉ body ∧
    '[' ∉ read ++ body ∧ (read ++ body).count ':' ≤ 1 ∧
    (optional = false → rest.head? ≠ some '?') ∧ Written later rest ∧
    template = consBody (read ++ body) optional later

/-- A bracket opens a body. -/
theorem written_open : template.Written ('[' :: cs) ↔ WrittenBehind [] template cs := by
  constructor
  · intro h
    generalize hcs : '[' :: cs = text at h
    cases h with
    | tail h =>
      subst hcs
      exact absurd (by simp) h.1
    | @slot slot slots tail body rest hlead hbody hbrackets hmark h =>
      cases hl : slot.lead with
      | cons d lead =>
        rw [hl, List.cons_append] at hcs
        obtain ⟨rfl, -⟩ := List.cons.inj hcs
        exact absurd (by simp [hl]) hlead.1
      | nil =>
        rw [hl, List.nil_append] at hcs
        obtain ⟨-, rfl⟩ := List.cons.inj hcs
        obtain ⟨hcount, hslot⟩ := (writtenAs_iff hl).mp hbody
        refine ⟨body, slot.optional, rest, ⟨slots, tail⟩, rfl, hbrackets.2, hbrackets.1, hcount,
          hmark, h, ?_⟩
        rw [hslot]
        rfl
  · rintro ⟨body, optional, rest, later, rfl, hclose, hopen, hcount, hmark, h, rfl⟩
    exact .slot (by simp [Unbracketed]) ((writtenAs_iff rfl).mpr ⟨hcount, rfl⟩)
      ⟨hopen, hclose⟩ hmark h

/-! ## Reading -/

theorem not_writtenBehind_nil {read : List Char} : ¬ WrittenBehind read template [] := by
  rintro ⟨body, optional, rest, later, h, -⟩
  simp at h

/-- What stands in a body is collected up to the bracket that closes it. -/
theorem writtenBehind_cons {read : List Char} (hclose : c ≠ ']') :
    WrittenBehind read template (c :: cs) ↔ WrittenBehind (read ++ [c]) template cs := by
  have happend : ∀ body, read ++ [c] ++ body = read ++ c :: body := fun body => by simp
  constructor
  · rintro ⟨body, optional, rest, later, h, hbody, hopen, hcount, hmark, hlater, rfl⟩
    cases body with
    | nil => exact absurd (List.cons.inj h).1 hclose
    | cons d body =>
      obtain ⟨rfl, rfl⟩ := List.cons.inj h
      rw [← happend body] at hopen hcount ⊢
      exact ⟨body, optional, rest, later, rfl, fun hc => hbody (by simp [hc]), hopen, hcount, hmark,
        hlater, rfl⟩
  · rintro ⟨body, optional, rest, later, rfl, hbody, hopen, hcount, hmark, hlater, rfl⟩
    rw [happend] at hopen hcount ⊢
    exact ⟨c :: body, optional, rest, later, rfl, by simp [hbody, Ne.symm hclose], hopen, hcount,
      hmark, hlater, rfl⟩

/-- The bracket that closes a body ends a placeholder, and the question mark behind it makes it
optional. -/
theorem writtenBehind_close {read : List Char} :
    WrittenBehind read template (']' :: cs) ↔ ('[' ∉ read ∧ read.count ':' ≤ 1) ∧
      ∃ optional rest later, cs = mark optional ++ rest ∧
        (optional = false → rest.head? ≠ some '?') ∧ later.Written rest ∧
        template = consBody read optional later := by
  constructor
  · rintro ⟨body, optional, rest, later, h, hbody, hopen, hcount, hlater⟩
    cases body with
    | nil =>
      rw [List.append_nil] at hopen hcount hlater
      exact ⟨⟨hopen, hcount⟩, optional, rest, later, (List.cons.inj h).2, hlater⟩
    | cons d body =>
      obtain ⟨rfl, -⟩ := List.cons.inj h
      exact absurd (by simp) hbody
  · rintro ⟨⟨hopen, hcount⟩, optional, rest, later, rfl, hlater⟩
    refine ⟨[], optional, rest, later, rfl, by simp, ?_⟩
    rw [List.append_nil]
    exact ⟨hopen, hcount, hlater⟩

theorem writtenBehind_close_mark {read : List Char} :
    WrittenBehind read template (']' :: '?' :: cs) ↔ ('[' ∉ read ∧ read.count ':' ≤ 1) ∧
      ∃ later, later.Written cs ∧ template = consBody read true later := by
  rw [writtenBehind_close]
  refine and_congr_right fun _ => ⟨?_, fun ⟨later, h⟩ => ⟨true, cs, later, rfl, by simp, h⟩⟩
  rintro ⟨optional, rest, later, hcs, hmark, h⟩
  cases optional with
  | false =>
    obtain rfl : '?' :: cs = rest := hcs
    exact absurd rfl (hmark rfl)
  | true =>
    obtain rfl : cs = rest := (List.cons.inj hcs).2
    exact ⟨later, h⟩

theorem writtenBehind_close_plain {read : List Char} (hcs : cs.head? ≠ some '?') :
    WrittenBehind read template (']' :: cs) ↔ ('[' ∉ read ∧ read.count ':' ≤ 1) ∧
      ∃ later, later.Written cs ∧ template = consBody read false later := by
  rw [writtenBehind_close]
  refine and_congr_right fun _ => ⟨?_, fun ⟨later, h⟩ => ⟨false, cs, later, rfl, fun _ => hcs, h⟩⟩
  rintro ⟨optional, rest, later, rfl, -, h⟩
  cases optional with
  | false => exact ⟨later, h⟩
  | true => exact absurd rfl hcs

/-- What stands behind a closing bracket is read if there is no defect in the brackets. -/
theorem later_eq_ok {start : Nat} {read : List Char} {later : Except TemplateDefect Template}
    (hlater : ∀ template, later = .ok template ↔ template.Written rest) :
    (match bodyDefect? start read with
      | some defect => Except.error defect
      | none => later.map (consBody read optional)) = .ok template ↔
      ('[' ∉ read ∧ read.count ':' ≤ 1) ∧
        ∃ later, later.Written rest ∧ template = consBody read optional later := by
  rw [← bodyDefect?_eq_none start]
  simp only [← hlater]
  cases bodyDefect? start read <;> cases later <;> simp [Except.map, eq_comm]

/-- A placeholder is read if what follows it is. -/
theorem readBody_eq_ok {n : Nat} (hshorter : ∀ offset (cs : List Char) template, cs.length < n →
      (readLiteral offset cs = .ok template ↔ template.Written cs))
    (start offset : Nat) (read : List Char) (hcs : cs.length ≤ n) :
    readBody start read offset cs = .ok template ↔ WrittenBehind read.reverse template cs := by
  induction cs generalizing offset read with
  | nil => simp [readBody, not_writtenBehind_nil]
  | cons c cs ih =>
    rw [List.length_cons] at hcs
    by_cases hclose : c = ']'
    · subst hclose
      by_cases hmark : cs.head? = some '?'
      · obtain ⟨rest, rfl⟩ := List.head?_eq_some_iff.mp hmark
        rw [readBody, writtenBehind_close_mark]
        refine later_eq_ok fun template => hshorter _ _ _ ?_
        rw [List.length_cons] at hcs
        omega
      · rw [readBody, writtenBehind_close_plain hmark]
        · exact later_eq_ok fun template => hshorter _ _ _ hcs
        · rintro rest rfl
          exact hmark rfl
    · rw [readBody, ih, writtenBehind_cons hclose, List.reverse_cons]
      · omega
      · exact fun _ h => absurd h hclose
      · exact hclose

/-- A text is read as the template that it is written for. -/
theorem readLiteral_eq_ok (offset : Nat) (cs : List Char) (template : Template) :
    readLiteral offset cs = .ok template ↔ template.Written cs := by
  induction hn : cs.length using Nat.strongRecOn generalizing offset cs template with
  | _ n ih =>
  subst hn
  cases cs with
  | nil => simp [readLiteral, written_nil, eq_comm]
  | cons c cs =>
    have hshorter : ∀ offset (cs' : List Char) template, cs'.length < (c :: cs).length →
        (readLiteral offset cs' = .ok template ↔ template.Written cs') :=
      fun offset cs' template h => ih _ h offset cs' template rfl
    rw [readLiteral]
    split_ifs with hopen hclose
    · subst hopen
      rw [written_open]
      exact readBody_eq_ok hshorter offset (offset + 1) [] (Nat.le_succ _)
    · subst hclose
      simp [not_written_close]
    · rw [written_cons hopen hclose]
      have hlater := fun later => hshorter (offset + c.utf8Size) cs later (Nat.lt_succ_self _)
      simp only [← hlater]
      cases readLiteral (offset + c.utf8Size) cs <;> simp [Except.map, eq_comm]

/-- A text is a template exactly if the template is written in it. -/
theorem ofText_eq_ok {text : String} : ofText text = .ok template ↔ template.Written text.toList :=
  readLiteral_eq_ok 0 text.toList template

end Template

end Routing
