import Routing.Proofs.TemplateText
import Routing.Route

/-!
# Proofs: defects of templates

A text is a template if it is a sequence of items: characters other than brackets, and placeholders.
A text that is none has a leftmost place where no further item begins, and what stands there is the
defect that is reported. The brackets are gone through before any fragment is looked at.
-/

namespace Routing

namespace Template

/-- The text is a sequence of items: a character that is no bracket, or a placeholder, which is a
body without brackets and with at most one colon in brackets, and maybe a question mark behind. -/
inductive Items : List Char → Prop where
  /-- No item is left. -/
  | nil : Items []
  /-- A character that is no bracket. -/
  | char {c : Char} {cs : List Char} (hopen : c ≠ '[') (hclose : c ≠ ']') (h : Items cs) :
      Items (c :: cs)
  /-- A placeholder. -/
  | placeholder {body cs : List Char} (optional : Bool) (hbody : Unbracketed body)
      (hcolon : body.count ':' ≤ 1) (h : Items cs) :
      Items ('[' :: (body ++ ']' :: (mark optional ++ cs)))

/-- The text, which begins at the byte `start`, begins with a defect. The reason is the defect in
words. -/
inductive Defective (start : Nat) : List Char → TemplateDefect → String → Prop where
  /-- A bracket is opened and none is closed behind it. -/
  | unclosed {cs : List Char} (h : ']' ∉ cs) :
      Defective start ('[' :: cs) (.unclosed start)
        ("unclosed '[' at offset " ++ toString start)
  /-- A bracket is opened and another one before the next closing one. -/
  | nested {body cs : List Char} (hclose : ']' ∉ body) (hopen : '[' ∈ body) :
      Defective start ('[' :: (body ++ ']' :: cs)) (.nested start)
        ("nested '[' at offset " ++ toString start)
  /-- A bracket is closed that has not been opened. -/
  | unbalanced {cs : List Char} :
      Defective start (']' :: cs) (.unbalanced start)
        ("unbalanced ']' at offset " ++ toString start)
  /-- The brackets of a placeholder are in order but hold too many colons. -/
  | repeatedColon {body cs : List Char} (hbody : Unbracketed body) (hcolon : 1 < body.count ':') :
      Defective start ('[' :: (body ++ ']' :: cs)) (.repeatedColon (String.ofList body))
        ("placeholder '[" ++ String.ofList body ++ "]' has more than one ':'")

/-- The text is a sequence of items up to a defect. The offset of the defect counts the bytes in
front of it, the text itself beginning at the byte `start`. -/
def LeftmostDefect (start : Nat) (text : List Char) (defect : TemplateDefect) (reason : String) :
    Prop :=
  ∃ front rest, text = front ++ rest ∧ Items front ∧
    Defective (start + (String.ofList front).utf8ByteSize) rest defect reason

variable {front rest body cs : List Char} {c : Char} {start offset : Nat}
  {defect : TemplateDefect} {reason : String}

theorem Defective.message (h : Defective start cs defect reason) :
    defect ≠ .badExpression ∧ defect.message = reason := by
  cases h with
  | unclosed | nested | unbalanced | repeatedColon => exact ⟨by simp, rfl⟩

/-! ## Bytes -/

theorem utf8ByteSize_ofList_append (s t : List Char) :
    (String.ofList (s ++ t)).utf8ByteSize =
      (String.ofList s).utf8ByteSize + (String.ofList t).utf8ByteSize := by
  rw [String.ofList_append, String.utf8ByteSize_append]

theorem utf8ByteSize_ofList_cons (c : Char) (cs : List Char) :
    (String.ofList (c :: cs)).utf8ByteSize = c.utf8Size + (String.ofList cs).utf8ByteSize := by
  rw [← List.singleton_append, utf8ByteSize_ofList_append]
  exact congrArg (· + _) String.utf8ByteSize_singleton

/-! ## Items -/

theorem Items.append {later : List Char} (h : Items front) (hlater : Items later) :
    Items (front ++ later) := by
  induction h with
  | nil => exact hlater
  | char hopen hclose _ ih => exact .char hopen hclose ih
  | placeholder optional hbody hcolon _ ih =>
    have happend := Items.placeholder optional hbody hcolon ih
    simpa using happend

/-- Items in front of a text move its leftmost defect on by their bytes. -/
theorem LeftmostDefect.append (hfront : Items front)
    (h : LeftmostDefect (start + (String.ofList front).utf8ByteSize) cs defect reason) :
    LeftmostDefect start (front ++ cs) defect reason := by
  obtain ⟨items, rest, rfl, hitems, hdefect⟩ := h
  refine ⟨front ++ items, rest, (List.append_assoc _ _ _).symm, hfront.append hitems, ?_⟩
  rw [utf8ByteSize_ofList_append, ← Nat.add_assoc]
  exact hdefect

/-- Up to the next closing bracket a text behind an opening one is a body. -/
theorem exists_body (h : ']' ∈ cs) : ∃ body rest, cs = body ++ ']' :: rest ∧ ']' ∉ body := by
  obtain ⟨body, rest, hcs, hbody⟩ := List.eq_append_cons_of_mem h
  exact ⟨body, rest, hcs, hbody⟩

/-- Every text is a sequence of items or has a leftmost defect. -/
theorem items_or_leftmostDefect (start : Nat) (cs : List Char) :
    Items cs ∨ ∃ defect reason, LeftmostDefect start cs defect reason := by
  induction hn : cs.length using Nat.strongRecOn generalizing start cs with
  | _ n ih =>
  subst hn
  have hhere : ∀ {defect reason}, Defective start cs defect reason →
      LeftmostDefect start cs defect reason := by
    intro defect reason h
    exact ⟨[], cs, rfl, .nil, by simpa using h⟩
  -- behind the first item the text goes on as a shorter one
  have hbehind : ∀ {front rest}, cs = front ++ rest → Items front → front ≠ [] →
      Items cs ∨ ∃ defect reason, LeftmostDefect start cs defect reason := by
    intro front rest hcs hfront hne
    have hlength : rest.length < cs.length := by
      have hpos := List.length_pos_iff.mpr hne
      rw [hcs, List.length_append]
      omega
    rcases ih _ hlength (start + (String.ofList front).utf8ByteSize) rest rfl with
      h | ⟨defect, reason, h⟩
    · exact Or.inl (hcs ▸ hfront.append h)
    · exact Or.inr ⟨defect, reason, hcs ▸ h.append hfront⟩
  cases cs with
  | nil => exact Or.inl .nil
  | cons c cs =>
    by_cases hopen : c = '['
    · subst hopen
      by_cases hmem : ']' ∈ cs
      · obtain ⟨body, rest, rfl, hclose⟩ := exists_body hmem
        by_cases hnested : '[' ∈ body
        · exact Or.inr ⟨_, _, hhere (.nested hclose hnested)⟩
        · by_cases hcolon : body.count ':' ≤ 1
          · have hitem : Items ('[' :: (body ++ ']' :: (mark false ++ []))) :=
              .placeholder false ⟨hnested, hclose⟩ hcolon .nil
            have hcs : '[' :: (body ++ ']' :: rest) =
                '[' :: (body ++ ']' :: (mark false ++ [])) ++ rest := by
              simp [mark]
            exact hbehind hcs hitem (by simp)
          · exact Or.inr ⟨_, _, hhere (.repeatedColon ⟨hnested, hclose⟩ (by omega))⟩
      · exact Or.inr ⟨_, _, hhere (.unclosed hmem)⟩
    · by_cases hclose : c = ']'
      · subst hclose
        exact Or.inr ⟨_, _, hhere .unbalanced⟩
      · exact hbehind List.singleton_append.symm (.char hopen hclose .nil) (by simp)

/-! ## Reading -/

/-- The defect for which a text is not read. -/
def defectIn (offset : Nat) (cs : List Char) : Option TemplateDefect :=
  match readLiteral offset cs with
  | .error defect => some defect
  | .ok _ => none

theorem defectIn_of_map {f : Template → Template}
    (h : readLiteral start rest = (readLiteral offset cs).map f) :
    defectIn start rest = defectIn offset cs := by
  unfold defectIn
  rw [h]
  cases readLiteral offset cs <;> rfl

/-- A literal character does not matter for what is wrong behind it. -/
theorem defectIn_char (hopen : c ≠ '[') (hclose : c ≠ ']') :
    defectIn offset (c :: cs) = defectIn (offset + c.utf8Size) cs := by
  refine defectIn_of_map (f := consChar c) ?_
  rw [readLiteral, if_neg hopen, if_neg hclose]

theorem defectIn_close : defectIn offset (']' :: cs) = some (.unbalanced offset) := by
  simp [defectIn, readLiteral]

theorem readBody_cons {read : List Char} (hclose : c ≠ ']') :
    readBody start read offset (c :: cs) =
      readBody start (c :: read) (offset + c.utf8Size) cs := by
  rw [readBody]
  · exact fun _ h => absurd h hclose
  · exact hclose

theorem readBody_of_not_mem {read : List Char} (h : ']' ∉ cs) :
    readBody start read offset cs = .error (.unclosed start) := by
  induction cs generalizing read offset with
  | nil => rfl
  | cons c cs ih =>
    rw [List.mem_cons, not_or] at h
    obtain ⟨hc, hcs⟩ := h
    rw [readBody_cons (Ne.symm hc), ih hcs]

/-- A body is read to its end before it is judged. -/
theorem readBody_append {read : List Char} (h : ']' ∉ body) :
    readBody start read offset (body ++ cs) =
      readBody start (body.reverse ++ read) (offset + (String.ofList body).utf8ByteSize) cs := by
  induction body generalizing read offset with
  | nil => simp
  | cons c body ih =>
    rw [List.mem_cons, not_or] at h
    obtain ⟨hc, hbody⟩ := h
    rw [List.cons_append, readBody_cons (Ne.symm hc), ih hbody, utf8ByteSize_ofList_cons,
      Nat.add_assoc, List.reverse_cons, List.append_assoc, List.singleton_append]

/-- A bracket that is never closed is the defect, whatever else follows. -/
theorem defectIn_unclosed (h : ']' ∉ cs) :
    defectIn offset ('[' :: cs) = some (.unclosed offset) := by
  simp [defectIn, readLiteral, readBody_of_not_mem h]

theorem readLiteral_open (h : ']' ∉ body) :
    readLiteral offset ('[' :: (body ++ cs)) =
      readBody offset body.reverse (offset + 1 + (String.ofList body).utf8ByteSize) cs := by
  rw [readLiteral, if_pos rfl, readBody_append h, List.append_nil]

theorem defectIn_of_bodyDefect? (h : ']' ∉ body) (hdefect : bodyDefect? offset body = some defect) :
    defectIn offset ('[' :: (body ++ ']' :: rest)) = some defect := by
  have hread : readLiteral offset ('[' :: (body ++ ']' :: rest)) = .error defect := by
    rw [readLiteral_open h]
    by_cases hmark : rest.head? = some '?'
    · obtain ⟨later, rfl⟩ := List.head?_eq_some_iff.mp hmark
      rw [readBody, List.reverse_reverse, hdefect]
    · rw [readBody, List.reverse_reverse, hdefect]
      rintro later rfl
      exact hmark rfl
  rw [defectIn, hread]

/-- Behind a body in order the text is read on. A question mark there belongs to the placeholder,
which makes no difference to the defects of the text. -/
theorem defectIn_placeholder (h : ']' ∉ body) (hdefect : bodyDefect? offset body = none) :
    defectIn offset ('[' :: (body ++ ']' :: rest)) =
      defectIn (offset + (String.ofList ('[' :: (body ++ [']']))).utf8ByteSize) rest := by
  have hsize : offset + (String.ofList ('[' :: (body ++ [']']))).utf8ByteSize =
      offset + 1 + (String.ofList body).utf8ByteSize + 1 := by
    rw [utf8ByteSize_ofList_cons, utf8ByteSize_ofList_append]
    have hopen : '['.utf8Size = 1 := rfl
    have hclose : (String.ofList [']']).utf8ByteSize = 1 := rfl
    omega
  rw [hsize]
  by_cases hmark : rest.head? = some '?'
  · obtain ⟨later, rfl⟩ := List.head?_eq_some_iff.mp hmark
    rw [defectIn_char (c := '?') (by decide) (by decide)]
    refine defectIn_of_map (f := consBody body true) ?_
    rw [readLiteral_open h, readBody, List.reverse_reverse, hdefect]
    rfl
  · refine defectIn_of_map (f := consBody body false) ?_
    rw [readLiteral_open h, readBody, List.reverse_reverse, hdefect]
    rintro later rfl
    exact hmark rfl

/-- Items in front of a text are read without a defect. -/
theorem defectIn_append (h : Items front) :
    defectIn offset (front ++ rest) =
      defectIn (offset + (String.ofList front).utf8ByteSize) rest := by
  induction h generalizing offset with
  | nil => rfl
  | char hopen hclose _ ih =>
    rw [List.cons_append, defectIn_char hopen hclose, ih, utf8ByteSize_ofList_cons, Nat.add_assoc]
  | @placeholder body cs optional hbody hcolon _ ih =>
    have hdefect := (bodyDefect?_eq_none offset).mpr ⟨hbody.1, hcolon⟩
    have hfront : '[' :: (body ++ ']' :: (mark optional ++ cs)) ++ rest =
        '[' :: (body ++ ']' :: (mark optional ++ (cs ++ rest))) := by
      simp
    have hmark : ∀ {start : Nat}, defectIn start (mark optional ++ (cs ++ rest)) =
        defectIn (start + (String.ofList (mark optional)).utf8ByteSize) (cs ++ rest) := by
      intro start
      cases optional with
      | false => rfl
      | true => exact defectIn_char (by decide) (by decide)
    have hsplit : '[' :: (body ++ ']' :: (mark optional ++ cs)) =
        '[' :: (body ++ [']']) ++ (mark optional ++ cs) := by
      simp
    rw [hfront, defectIn_placeholder hbody.2 hdefect, hmark, ih, hsplit,
      utf8ByteSize_ofList_append, utf8ByteSize_ofList_append, Nat.add_assoc, Nat.add_assoc]

theorem defectIn_of_items (h : Items cs) : defectIn offset cs = none := by
  rw [← List.append_nil cs, defectIn_append h]
  rfl

theorem defectIn_of_defective (h : Defective offset cs defect reason) :
    defectIn offset cs = some defect := by
  cases h with
  | unclosed h => exact defectIn_unclosed h
  | @nested body cs hclose hopen =>
    refine defectIn_of_bodyDefect? hclose ?_
    rw [bodyDefect?, if_pos hopen]
  | unbalanced => exact defectIn_close
  | @repeatedColon body cs hbody hcolon =>
    refine defectIn_of_bodyDefect? hbody.2 ?_
    rw [bodyDefect?, if_neg hbody.1, if_pos hcolon]

theorem defectIn_of_leftmostDefect (h : LeftmostDefect offset cs defect reason) :
    defectIn offset cs = some defect := by
  obtain ⟨front, rest, rfl, hfront, hdefect⟩ := h
  rw [defectIn_append hfront, defectIn_of_defective hdefect]

/-- What is wrong with a text is its leftmost defect, and with a sequence of items nothing is. -/
theorem defectIn_eq_some : defectIn offset cs = some defect ↔
    ∃ reason, LeftmostDefect offset cs defect reason := by
  constructor
  · intro h
    rcases items_or_leftmostDefect offset cs with hitems | ⟨leftmost, reason, hleftmost⟩
    · rw [defectIn_of_items hitems] at h
      exact absurd h (by simp)
    · obtain rfl := Option.some.inj (h.symm.trans (defectIn_of_leftmostDefect hleftmost))
      exact ⟨reason, hleftmost⟩
  · rintro ⟨reason, h⟩
    exact defectIn_of_leftmostDefect h

theorem LeftmostDefect.message (h : LeftmostDefect offset cs defect reason) :
    defect ≠ .badExpression ∧ defect.message = reason := by
  obtain ⟨front, rest, -, -, hdefect⟩ := h
  exact hdefect.message

/-- Reading finds fault with the brackets only. -/
theorem ofText_ne_badExpression (text : String) : ofText text ≠ .error .badExpression := by
  intro hread
  change readLiteral 0 text.toList = _ at hread
  have hdefect : defectIn 0 text.toList = some .badExpression := by rw [defectIn, hread]
  obtain ⟨reason, hleftmost⟩ := defectIn_eq_some.mp hdefect
  exact hleftmost.message.1 rfl

end Template

namespace Route

open Template (Items LeftmostDefect defectIn)

variable {url : String} {defect : TemplateDefect} {reason : String}

/-- A template is refused for its brackets if they have a defect, whatever its fragments are. -/
theorem compileUrl_eq_error :
    (compileUrl url = .error (.malformedTemplate url defect) ∧ defect ≠ .badExpression) ↔
      defectIn 0 url.toList = some defect := by
  cases hread : Template.ofText url with
  | error found =>
    have hdefect : defectIn 0 url.toList = some found := by
      change Template.readLiteral 0 url.toList = _ at hread
      rw [defectIn, hread]
    have hfound : found ≠ .badExpression := by
      rintro rfl
      exact Template.ofText_ne_badExpression url hread
    rw [compileUrl, Pattern.compile_of_malformed hread, hdefect]
    simp only [Except.error.injEq, Error.malformedTemplate.injEq, true_and, Option.some.injEq]
    constructor
    · exact fun h => h.1
    · rintro rfl
      exact ⟨rfl, hfound⟩
  | ok template =>
    have hdefect : defectIn 0 url.toList = none := by
      change Template.readLiteral 0 url.toList = _ at hread
      rw [defectIn, hread]
    rw [hdefect, compileUrl, Pattern.compile_of_ofText hread]
    cases Regex.ofText? template.expression with
    | some regex => simp
    | none => simp [eq_comm]

/-- A template is refused for its brackets exactly if it is no sequence of items, and the reason is
that of the leftmost defect: the text in front of it is a sequence of items, and its offset counts
their bytes. -/
theorem compileUrl_eq_leftmostDefect (url : String) :
    ((∃ defect, compileUrl url = .error (.malformedTemplate url defect) ∧
        defect ≠ .badExpression) ↔ ¬ Items url.toList) ∧
      ∀ defect reason, (compileUrl url = .error (.malformedTemplate url defect) ∧
        defect ≠ .badExpression ∧ defect.message = reason) ↔
          ∃ front rest, url.toList = front ++ rest ∧ Items front ∧
            Template.Defective (String.ofList front).utf8ByteSize rest defect reason := by
  constructor
  · simp only [compileUrl_eq_error]
    constructor
    · rintro ⟨defect, hdefect⟩ hitems
      rw [Template.defectIn_of_items hitems] at hdefect
      exact absurd hdefect (by simp)
    · intro hitems
      rcases Template.items_or_leftmostDefect 0 url.toList with h | ⟨defect, reason, h⟩
      · exact absurd h hitems
      · exact ⟨defect, Template.defectIn_of_leftmostDefect h⟩
  · intro defect reason
    rw [← and_assoc, compileUrl_eq_error, Template.defectIn_eq_some]
    have hstart : ∀ reason, LeftmostDefect 0 url.toList defect reason ↔
        ∃ front rest, url.toList = front ++ rest ∧ Items front ∧
          Template.Defective (String.ofList front).utf8ByteSize rest defect reason := by
      intro reason
      simp only [LeftmostDefect, Nat.zero_add]
    rw [← hstart]
    constructor
    · rintro ⟨⟨found, hfound⟩, rfl⟩
      obtain rfl := hfound.message.2
      exact hfound
    · exact fun h => ⟨⟨reason, h⟩, h.message.2⟩

example : Template.ofText "/é/[i:id" = .error (.unclosed 4) := by decide +kernel

end Route

end Routing
