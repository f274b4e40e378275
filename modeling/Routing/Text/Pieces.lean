/-!
# Cutting a text at separators

`pieces` cuts at every occurrence of a separator, so `n` separators give `n + 1` pieces; `cutAt`
cuts at the first character with a property. Joining the pieces again gives the text back.
-/

namespace Routing.Text

/-- The pieces between the characters that satisfy `sep`; there is always at least one. -/
def pieces (sep : Char → Bool) : List Char → List (List Char)
  | [] => [[]]
  | c :: cs =>
    if sep c then [] :: pieces sep cs
    else match pieces sep cs with
      | [] => [[c]]
      | piece :: rest => (c :: piece) :: rest

/-- The part before the first character that satisfies `sep` and, if there is such a character, the
part after it. -/
def cutAt (sep : Char → Bool) : List Char → List Char × Option (List Char)
  | [] => ([], none)
  | c :: cs =>
    if sep c then ([], some cs)
    else
      let (before, after) := cutAt sep cs
      (c :: before, after)

theorem pieces_ne_nil (sep : Char → Bool) (cs : List Char) : pieces sep cs ≠ [] := by
  cases cs with
  | nil => simp [pieces]
  | cons c cs =>
    simp only [pieces]
    split
    · simp
    · split <;> simp

/-- A text without separators is one piece. -/
theorem pieces_of_forall_not (sep : Char → Bool) (cs : List Char)
    (h : ∀ c ∈ cs, sep c = false) : pieces sep cs = [cs] := by
  induction cs with
  | nil => rfl
  | cons c cs ih =>
    have hc : sep c = false := h c (by simp)
    simp [pieces, hc, ih fun d hd => h d (by simp [hd])]

/-- The part before the cut is the longest run without a separator. -/
theorem fst_cutAt (sep : Char → Bool) (cs : List Char) :
    (cutAt sep cs).1 = cs.takeWhile fun c => !sep c := by
  induction cs with
  | nil => rfl
  | cons c cs ih => by_cases h : sep c <;> simp [cutAt, h, ih]

/-- Nothing but the one separator is lost in a cut. -/
theorem cutAt_spec (sep : Char → Bool) (cs : List Char) :
    match cutAt sep cs with
    | (before, none) => cs = before
    | (before, some after) => ∃ c, sep c = true ∧ cs = before ++ c :: after := by
  induction cs with
  | nil => rfl
  | cons c cs ih =>
    by_cases h : sep c
    · simp [cutAt, h]
    · simp only [cutAt, h]
      generalize cutAt sep cs = cut at ih
      rcases cut with ⟨before, _ | after⟩
      · simpa using ih
      · obtain ⟨d, hd, rfl⟩ := ih
        exact ⟨d, hd, by simp⟩

end Routing.Text
