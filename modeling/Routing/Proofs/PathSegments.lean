import Mathlib.Data.List.Basic
import Mathlib.Tactic.Common
import Routing.Proofs.PercentCoding
import Routing.Url.Path

/-!
# Proofs: the segments of a path

A path is cut at its slashes, resolved and written again. Writing is the inverse of cutting.
Whatever is resolved, no dot segment is left and nothing is written that does not stand for itself in
a path; and where there is no dot segment to begin with, nothing is taken away.
-/

namespace Routing

/-! ## Pieces -/

namespace Text

variable {sep : Char → Bool} {cs piece : List Char} {c : Char}

theorem pieces_cons_of_not (hc : sep c = false) (cs : List Char) :
    pieces sep (c :: cs) = (pieces sep cs).modifyHead (c :: ·) := by
  rw [pieces, if_neg (by simp [hc])]
  cases hpieces : pieces sep cs with
  | nil => exact absurd hpieces (pieces_ne_nil sep cs)
  | cons piece rest => rfl

theorem pieces_cons_of_sep (hc : sep c = true) (cs : List Char) :
    pieces sep (c :: cs) = [] :: pieces sep cs :=
  if_pos hc

/-- A piece holds characters of the text that are no separators. -/
theorem of_mem_pieces (hpiece : piece ∈ pieces sep cs) (hc : c ∈ piece) :
    c ∈ cs ∧ sep c = false := by
  induction cs generalizing piece with
  | nil =>
    rw [pieces, List.mem_singleton] at hpiece
    rw [hpiece] at hc
    cases hc
  | cons d cs ih =>
    cases hd : sep d with
    | true =>
      rw [pieces_cons_of_sep hd, List.mem_cons] at hpiece
      rcases hpiece with rfl | hpiece
      · cases hc
      · exact ⟨List.mem_cons_of_mem d (ih hpiece hc).1, (ih hpiece hc).2⟩
    | false =>
      rw [pieces_cons_of_not hd] at hpiece
      cases hpieces : pieces sep cs with
      | nil => exact absurd hpieces (pieces_ne_nil sep cs)
      | cons first rest =>
        rw [hpieces, List.modifyHead_cons, List.mem_cons] at hpiece
        rw [hpieces] at ih
        rcases hpiece with rfl | hpiece
        · rcases List.mem_cons.mp hc with rfl | hc
          · exact ⟨List.mem_cons_self, hd⟩
          · have := ih List.mem_cons_self hc
            exact ⟨List.mem_cons_of_mem d this.1, this.2⟩
        · have := ih (List.mem_cons_of_mem first hpiece) hc
          exact ⟨List.mem_cons_of_mem d this.1, this.2⟩

theorem pieces_append_of_forall_not (h : ∀ d ∈ piece, sep d = false) (cs : List Char) :
    pieces sep (piece ++ cs) = (pieces sep cs).modifyHead (piece ++ ·) := by
  induction piece with
  | nil => cases hpieces : pieces sep cs <;> simp [hpieces]
  | cons c piece ih =>
    rw [List.cons_append, pieces_cons_of_not (h c (by simp)), ih fun d hd => h d (by simp [hd])]
    cases hpieces : pieces sep cs <;> simp

/-- A separator at the end puts an empty piece there. -/
theorem pieces_concat (hc : sep c = true) (cs : List Char) :
    pieces sep (cs ++ [c]) = pieces sep cs ++ [[]] := by
  induction cs with
  | nil => simp [pieces, hc]
  | cons d cs ih =>
    cases hd : sep d with
    | true =>
      rw [List.cons_append, pieces_cons_of_sep hd, pieces_cons_of_sep hd, ih, List.cons_append]
    | false =>
      rw [List.cons_append, pieces_cons_of_not hd, pieces_cons_of_not hd, ih]
      cases hpieces : pieces sep cs with
      | nil => exact absurd hpieces (pieces_ne_nil sep cs)
      | cons first rest => rfl

end Text

namespace Url.Path

variable {segment : Segment} {segments done : List Segment} {kind : SchemeKind}

/-! ## Writing and cutting -/

/-- What has been cut at slashes is written as it was. -/
theorem render_pieces {sep : Char → Bool} {text : List Char}
    (hsep : ∀ c ∈ text, sep c = true ↔ c = '/') :
    render (Text.pieces sep text) = '/' :: text := by
  induction text with
  | nil => rfl
  | cons c text ih =>
    have htext := ih fun d hd => hsep d (by simp [hd])
    have hc := hsep c (by simp)
    by_cases hslash : c = '/'
    · rw [Text.pieces_cons_of_sep (hc.mpr hslash), render, List.flatMap_cons]
      change '/' :: render (Text.pieces sep text) = _
      rw [htext, hslash]
    · rw [Text.pieces_cons_of_not (by simpa using mt hc.mp hslash)]
      cases hpieces : Text.pieces sep text with
      | nil => exact absurd hpieces (Text.pieces_ne_nil sep text)
      | cons piece rest =>
        rw [hpieces] at htext
        have htail : piece ++ render rest = text := List.cons.inj htext |>.2
        rw [List.modifyHead_cons]
        change '/' :: (c :: piece ++ render rest) = _
        rw [List.cons_append, htail]

/-- Cutting a written path gives its segments, behind an empty piece. -/
theorem pieces_render (h : ∀ segment ∈ segments, '/' ∉ segment) :
    Text.pieces (· = '/') (render segments) = [] :: segments := by
  induction segments with
  | nil => rfl
  | cons segment segments ih =>
    have hsegment : ∀ c ∈ segment, (decide (c = '/')) = false := fun c hc =>
      decide_eq_false fun heq => h segment (by simp) (heq ▸ hc)
    have hrest := ih fun s hs => h s (by simp [hs])
    change Text.pieces _ ('/' :: (segment ++ render segments)) = _
    rw [Text.pieces_cons_of_sep (by simp), Text.pieces_append_of_forall_not hsegment, hrest]
    simp

/-! ## Dot segments -/

/-- A dot, which may be percent-encoded. -/
inductive IsDot : List Char → Prop where
  /-- As it is. -/
  | plain : IsDot ['.']
  /-- Encoded, with a digit in lower case. -/
  | lower : IsDot ['%', '2', 'e']
  /-- Encoded, with a digit in upper case. -/
  | upper : IsDot ['%', '2', 'E']

/-- A segment of one dot or of two. -/
inductive IsDotSegment : Segment → Prop where
  /-- One dot. -/
  | single {dot : List Char} (h : IsDot dot) : IsDotSegment dot
  /-- Two dots. -/
  | double {first second : List Char} (hfirst : IsDot first) (hsecond : IsDot second) :
      IsDotSegment (first ++ second)

theorem isDot_iff (dot : List Char) : IsDot dot ↔ dot ∈ singleDots := by
  constructor
  · rintro (_ | _ | _) <;> decide
  · intro h
    simp only [singleDots, List.mem_cons, List.not_mem_nil, or_false] at h
    rcases h with rfl | rfl | rfl
    · exact .plain
    · exact .lower
    · exact .upper

theorem isDotSegment_iff (segment : Segment) :
    IsDotSegment segment ↔ segment ∈ doubleDots ∨ segment ∈ singleDots := by
  constructor
  · rintro (hdot | ⟨hfirst, hsecond⟩)
    · exact .inr ((isDot_iff _).mp hdot)
    · refine .inl (List.mem_flatMap.mpr ⟨_, (isDot_iff _).mp hfirst, ?_⟩)
      exact List.mem_map.mpr ⟨_, (isDot_iff _).mp hsecond, rfl⟩
  · rintro (hdouble | hsingle)
    · obtain ⟨first, hfirst, hmem⟩ := List.mem_flatMap.mp hdouble
      obtain ⟨second, hsecond, rfl⟩ := List.mem_map.mp hmem
      exact .double ((isDot_iff _).mpr hfirst) ((isDot_iff _).mpr hsecond)
    · exact .single ((isDot_iff _).mpr hsingle)

/-- A dot segment holds a dot or a percent sign. -/
theorem IsDotSegment.mem (h : IsDotSegment segment) : '.' ∈ segment ∨ '%' ∈ segment := by
  have hdots : ∀ segment ∈ doubleDots ++ singleDots, '.' ∈ segment ∨ '%' ∈ segment := by decide
  exact hdots segment (List.mem_append.mpr ((isDotSegment_iff segment).mp h))

/-! ## Resolving -/

theorem enter_of_not_isDotSegment (hkind : kind ≠ .file) (h : ¬ IsDotSegment segment) :
    enter kind done segment = segment :: done := by
  rw [isDotSegment_iff, not_or] at h
  rw [enter, if_neg h.1, if_neg h.2, settle]
  simp [hkind]

/-- Segments without a dot segment among them stay as they are. -/
theorem resolve_eq (hkind : kind ≠ .file) (h : ∀ segment ∈ segments, ¬ IsDotSegment segment) :
    resolve kind done segments = done.reverse ++ segments := by
  induction segments generalizing done with
  | nil => simp [resolve]
  | cons segment segments ih =>
    have hsegment := h segment (by simp)
    have hrest := @ih (segment :: done) fun s hs => h s (by simp [hs])
    cases segments with
    | nil =>
      rw [resolve, if_neg (mt (isDotSegment_iff segment).mpr hsegment),
        enter_of_not_isDotSegment hkind hsegment, List.reverse_cons]
    | cons next segments =>
      rw [resolve, enter_of_not_isDotSegment hkind hsegment, hrest]
      · simp
      · simp

/-! ## What is left -/

/-- A segment in which every character stands for itself. -/
structure IsWritten (segment : Segment) : Prop where
  /-- Its characters may stand in a path. -/
  plain : ∀ c ∈ segment, isPlain c = true
  /-- It does not go on behind a slash. -/
  slash : '/' ∉ segment

/-- A segment of a path that has been resolved. -/
structure IsResolved (segment : Segment) : Prop extends IsWritten segment where
  /-- It is no dot segment. -/
  dots : ¬ IsDotSegment segment

theorem isResolved_nil : IsResolved [] where
  plain := by simp
  slash := by simp
  dots h := by rcases h.mem with h | h <;> cases h

/-- A segment is encoded so that it can be written. -/
theorem isWritten_encode {piece : List Char} (h : '/' ∉ piece) :
    IsWritten (Text.Percent.encode isPlain piece) where
  plain c hc := by
    refine Text.Percent.keep_of_mem_encode (by decide) (fun d hd => ?_) hc
    exact Text.forall_ascii (P := fun d => Text.Percent.isHexDigit d = true → isPlain d = true)
      (by decide +kernel) (Text.Percent.lt_of_isHexDigit hd) hd
  slash hc := by
    rcases Text.Percent.mem_encode hc with ⟨hmem, -⟩ | hsign | hdigit
    · exact h hmem
    · exact absurd hsign (by decide)
    · exact absurd hdigit (by decide)

/-- A drive letter is left with a colon behind it. -/
theorem isResolved_settle (h : IsResolved segment) : IsResolved (settle kind done segment) := by
  unfold settle
  split_ifs with hdrive
  · obtain ⟨-, hletter⟩ := Bool.and_eq_true_iff.mp hdrive
    unfold isDriveLetter at hletter
    split at hletter
    · rename_i letter mark
      obtain ⟨halpha, -⟩ := Bool.and_eq_true_iff.mp hletter
      have hdot : letter ≠ '.' ∧ letter ≠ '%' := by
        constructor <;> rintro rfl <;> exact absurd halpha (by decide)
      obtain ⟨⟨hplain, hslash⟩, -⟩ := h
      rw [List.mem_cons, not_or] at hslash
      rw [List.headD_cons]
      refine ⟨⟨?_, ?_⟩, fun hdots => ?_⟩
      · intro c hc
        rcases List.mem_cons.mp hc with rfl | hc
        · exact hplain c (by simp)
        · rw [List.mem_singleton.mp hc]
          decide
      · simp [hslash.1]
      · have hmem := hdots.mem
        simp [Ne.symm hdot.1, Ne.symm hdot.2] at hmem
    · cases hletter
  · exact h

theorem leave_subset (done : List Segment) : leave done ⊆ done := by
  unfold leave
  split
  · exact List.Subset.refl _
  · split_ifs
    · exact List.Subset.refl _
    · exact List.subset_cons_self _ _

theorem isResolved_of_mem_enter (hdone : ∀ s ∈ done, IsResolved s) (hsegment : IsWritten segment) :
    ∀ s ∈ enter kind done segment, IsResolved s := by
  unfold enter
  split_ifs with hdouble hsingle
  · exact fun s hs => hdone s (leave_subset done hs)
  · exact hdone
  · have hresolved : IsResolved segment :=
      ⟨hsegment, by rw [isDotSegment_iff]; exact not_or.mpr ⟨hdouble, hsingle⟩⟩
    intro s hs
    rcases List.mem_cons.mp hs with rfl | hs
    · exact isResolved_settle hresolved
    · exact hdone s hs

/-- Whatever the segments are, those that remain are resolved. -/
theorem isResolved_of_mem_resolve (hdone : ∀ s ∈ done, IsResolved s)
    (hsegments : ∀ s ∈ segments, IsWritten s) : ∀ s ∈ resolve kind done segments, IsResolved s := by
  induction segments generalizing done with
  | nil => simpa [resolve] using hdone
  | cons segment segments ih =>
    have henter : ∀ s ∈ enter kind done segment, IsResolved s :=
      isResolved_of_mem_enter hdone (hsegments segment (by simp))
    cases segments with
    | nil =>
      rw [resolve]
      split_ifs with hdots
      · intro s hs
        rcases List.mem_cons.mp (List.mem_reverse.mp hs) with rfl | hs
        · exact isResolved_nil
        · exact henter s hs
      · exact fun s hs => henter s (List.mem_reverse.mp hs)
    | cons next segments =>
      rw [resolve]
      · exact ih henter fun s hs => hsegments s (List.mem_cons_of_mem _ hs)
      · simp

theorem resolve_ne_nil (h : segments ≠ []) : resolve kind done segments ≠ [] := by
  induction segments generalizing done with
  | nil => exact absurd rfl h
  | cons segment segments ih =>
    cases segments with
    | nil =>
      rw [resolve]
      split_ifs with hdots
      · simp
      · rw [not_or] at hdots
        simp [enter, hdots.1, hdots.2]
    | cons next segments =>
      rw [resolve]
      · exact ih (by simp)
      · simp

theorem collapse_suffix (segments : List Segment) : collapse segments <:+ segments := by
  fun_induction collapse segments with
  | case1 segment segments ih => exact ih.trans (List.suffix_cons _ _)
  | case2 segments => exact List.suffix_rfl

theorem collapse_ne_nil (h : segments ≠ []) : collapse segments ≠ [] := by
  fun_induction collapse segments with
  | case1 segment segments ih => exact ih (by simp)
  | case2 segments => exact h

/-- The segments of a path are resolved, and there is at least one. -/
theorem isResolved_of_mem_segments (kind : SchemeKind) (text : List Char) :
    (∀ s ∈ Path.segments kind text, IsResolved s) ∧ Path.segments kind text ≠ [] := by
  let pieces := (Text.pieces kind.isSlash text).map (Text.Percent.encode isPlain)
  have hslash : kind.isSlash '/' = true := by cases kind <;> rfl
  have hwritten : ∀ s ∈ pieces, IsWritten s := by
    intro s hs
    obtain ⟨piece, hpiece, rfl⟩ := List.mem_map.mp hs
    refine isWritten_encode fun hmem => ?_
    rw [(Text.of_mem_pieces hpiece hmem).2] at hslash
    cases hslash
  have hresolved : ∀ s ∈ resolve kind [] pieces, IsResolved s :=
    isResolved_of_mem_resolve (by simp) hwritten
  have hne : resolve kind [] pieces ≠ [] :=
    resolve_ne_nil (by simpa [pieces] using Text.pieces_ne_nil kind.isSlash text)
  unfold Path.segments
  dsimp only
  split_ifs
  · exact ⟨fun s hs => hresolved s ((collapse_suffix _).subset hs), collapse_ne_nil hne⟩
  · exact ⟨hresolved, hne⟩

end Url.Path

end Routing
