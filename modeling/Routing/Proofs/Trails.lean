import Routing.Breadcrumb
import Routing.Proofs.Incoming
import Routing.Proofs.PathSegments

/-!
# Proofs: trails

A trail is made from the segments of a path and from nothing else: slashes may be added and repeated,
and query and fragment do not count. The URL of each entry spells the segments up to it, so that the
trail to the page of an entry is the part of the trail that ends with the entry.
-/

namespace Routing.Breadcrumb

variable {segments : List (List Char)} {segment text : List Char} {path other : String}

/-! ## Segments and slashes -/

/-- The text consists of the segments in order. They are not empty and hold no slash. Between two of
them there is a slash, and there may be more of them, also in front of the first one and behind the
last one. -/
inductive Spells : List (List Char) → List Char → Prop where
  | done : Spells [] []
  | slash {segments : List (List Char)} {text : List Char} (h : Spells segments text) :
      Spells segments ('/' :: text)
  | last {segment : List Char} (hne : segment ≠ []) (hslash : '/' ∉ segment) :
      Spells [segment] segment
  | segment {segment : List Char} {segments : List (List Char)} {text : List Char}
      (hne : segment ≠ []) (hslash : '/' ∉ segment) (h : Spells segments text) :
      Spells (segment :: segments) (segment ++ '/' :: text)

/-- The path passes the segments: they are spelled by the part of it in front of query and
fragment. -/
def Passes (path : String) (segments : List (List Char)) : Prop :=
  ∃ text tail, path.toList = text ++ tail ∧ Spells segments text ∧
    (∀ c ∈ text, c ≠ '?' ∧ c ≠ '#') ∧ ∀ c, tail.head? = some c → c = '?' ∨ c = '#'

/-- Every text spells some segments; one more character begins a segment or belongs to the first
one. -/
theorem exists_spells (text : List Char) : ∃ segments, Spells segments text := by
  induction text with
  | nil => exact ⟨[], .done⟩
  | cons c text ih =>
    obtain ⟨segments, h⟩ := ih
    by_cases hc : c = '/'
    · exact ⟨segments, hc ▸ .slash h⟩
    · have hslash : '/' ∉ [c] := by simpa using Ne.symm hc
      cases h with
      | done => exact ⟨[[c]], .last (by simp) hslash⟩
      | slash h => exact ⟨[c] :: segments, .segment (by simp) hslash h⟩
      | last hne hnot => exact ⟨[c :: text], .last (by simp) (by simpa using ⟨Ne.symm hc, hnot⟩)⟩
      | @segment first later rest hne hnot h =>
        exact ⟨(c :: first) :: later, .segment (by simp) (by simpa using ⟨Ne.symm hc, hnot⟩) h⟩

theorem forall_not_slash (h : '/' ∉ segment) : ∀ c ∈ segment, decide (c = '/') = false := by
  intro c hc
  refine decide_eq_false ?_
  rintro rfl
  exact h hc

/-- The segments are the pieces between slashes that are not empty. -/
theorem Spells.filter_pieces (h : Spells segments text) :
    (Text.pieces (· = '/') text).filter (!·.isEmpty) = segments := by
  induction h with
  | done => rfl
  | slash h ih =>
    rw [Text.pieces_cons_of_sep (by decide)]
    exact ih
  | last hne hslash =>
    rw [Text.pieces_of_forall_not _ _ (forall_not_slash hslash)]
    simp [hne]
  | segment hne hslash h ih =>
    rw [Text.pieces_append_of_forall_not (forall_not_slash hslash),
      Text.pieces_cons_of_sep (by decide), List.modifyHead_cons, List.append_nil]
    simp [hne, ih]

/-- Segments are not empty, have no slash and are parts of the text. -/
theorem Spells.mem (h : Spells segments text) (hsegment : segment ∈ segments) :
    segment ≠ [] ∧ '/' ∉ segment ∧ segment ⊆ text := by
  induction h with
  | done => cases hsegment
  | slash h ih =>
    obtain ⟨hne, hslash, hsubset⟩ := ih hsegment
    exact ⟨hne, hslash, List.subset_cons_of_subset _ hsubset⟩
  | last hne hslash =>
    rw [List.mem_singleton.mp hsegment]
    exact ⟨hne, hslash, List.Subset.refl _⟩
  | segment hne hslash h ih =>
    rcases List.mem_cons.mp hsegment with rfl | hsegment
    · exact ⟨hne, hslash, List.subset_append_left _ _⟩
    · obtain ⟨hne', hslash', hsubset⟩ := ih hsegment
      refine ⟨hne', hslash', fun c hc => ?_⟩
      exact List.mem_append_right _ (List.mem_cons_of_mem _ (hsubset hc))

theorem Spells.append_slash (h : Spells segments text) : Spells segments (text ++ ['/']) := by
  induction h with
  | done => exact .slash .done
  | slash h ih => exact .slash ih
  | last hne hslash => exact .segment hne hslash .done
  | segment hne hslash h ih =>
    rw [List.append_assoc, List.cons_append]
    exact .segment hne hslash ih

/-- A slash behind each segment spells the segments. -/
theorem spells_flatMap (h : ∀ segment ∈ segments, segment ≠ [] ∧ '/' ∉ segment) :
    Spells segments (segments.flatMap (· ++ ['/'])) := by
  induction segments with
  | nil => exact .done
  | cons segment segments ih =>
    obtain ⟨hne, hslash⟩ := h segment List.mem_cons_self
    rw [List.flatMap_cons, List.append_assoc]
    exact .segment hne hslash (ih fun later hlater => h later (List.mem_cons_of_mem _ hlater))

/-! ## The segments of a path -/

/-- The part for the path ends before the first question mark or hash sign. -/
theorem pathPart_append {tail : List Char} (htext : ∀ c ∈ text, c ≠ '?' ∧ c ≠ '#')
    (htail : ∀ c, tail.head? = some c → c = '?' ∨ c = '#') : pathPart (text ++ tail) = text := by
  have hrest : tail.takeWhile (fun c => c ≠ '?' && c ≠ '#') = [] := by
    cases tail with
    | nil => rfl
    | cons c tail =>
      refine List.takeWhile_cons_of_neg ?_
      rcases htail c rfl with rfl | rfl <;> decide
  rw [pathPart, List.takeWhile_append_of_pos (by simpa using htext), hrest, List.append_nil]

/-- A path passes one list of segments and no other. -/
theorem passes_iff : Passes path segments ↔ segments = Breadcrumb.segments path.toList := by
  have hunique : ∀ {segments}, Passes path segments → Breadcrumb.segments path.toList = segments := by
    rintro segments ⟨text, tail, hpath, hspells, htext, htail⟩
    rw [Breadcrumb.segments, hpath, pathPart_append htext htail]
    exact hspells.filter_pieces
  have hexists : ∃ segments, Passes path segments := by
    obtain ⟨segments, hspells⟩ := exists_spells (pathPart path.toList)
    refine ⟨segments, _, _, List.takeWhile_append_dropWhile.symm, hspells, fun c hc => ?_,
      fun c hc => ?_⟩
    · simpa using List.mem_takeWhile_imp hc
    · have hnot := List.head?_dropWhile_not (fun c => c ≠ '?' && c ≠ '#') path.toList
      rw [hc] at hnot
      simpa [or_iff_not_imp_left] using hnot
  constructor
  · intro h
    exact (hunique h).symm
  · rintro rfl
    obtain ⟨segments, h⟩ := hexists
    rwa [hunique h]

/-- The trail depends on the segments alone. -/
theorem Passes.trail_eq (h : Passes path segments) (h' : Passes other segments) (home : String) :
    trail other home = trail path home := by
  rw [trail, trail, ← passes_iff.mp h, ← passes_iff.mp h']

/-- A query or a fragment adds no segment. -/
theorem Passes.append {rest : String} (h : Passes path segments)
    (hrest : rest.toList.head? = some '?' ∨ rest.toList.head? = some '#') :
    Passes (path ++ rest) segments := by
  obtain ⟨text, tail, hpath, hspells, htext, htail⟩ := h
  refine ⟨text, tail ++ rest.toList, ?_, hspells, htext, fun c hc => ?_⟩
  · rw [String.toList_append, hpath, List.append_assoc]
  · cases tail with
    | nil =>
      rw [List.nil_append] at hc
      simpa [hc] using hrest
    | cons d tail => exact htail c hc

theorem Passes.append_slash (h : Passes (String.ofList text) segments) :
    Passes (String.ofList (text ++ ['/'])) segments := by
  obtain ⟨front, tail, hpath, hspells, hfront, htail⟩ := h
  rw [String.toList_ofList] at hpath
  cases tail with
  | nil =>
    refine ⟨front ++ ['/'], [], ?_, hspells.append_slash, fun d hd => ?_, htail⟩
    · rw [String.toList_ofList, hpath, List.append_nil, List.append_nil]
    · rcases List.mem_append.mp hd with hd | hd
      · exact hfront d hd
      · rw [List.mem_singleton.mp hd]
        decide
  | cons d tail =>
    refine ⟨front, d :: tail ++ ['/'], ?_, hspells, hfront, htail⟩
    rw [String.toList_ofList, hpath, List.append_assoc]

/-- Neither do slashes at the end. -/
theorem Passes.append_slashes (h : Passes (String.ofList text) segments) (n : Nat) :
    Passes (String.ofList (text ++ List.replicate n '/')) segments := by
  induction n with
  | zero => rwa [List.replicate_zero, List.append_nil]
  | succ n ih =>
    rw [List.replicate_succ', ← List.append_assoc]
    exact ih.append_slash

/-- The path of a request passes the segments of the path that the request is built from. -/
theorem Passes.normalizePath (h : Passes path segments) :
    Passes (Request.normalizePath path) segments := by
  obtain ⟨stem, n, hpath, -, hstripped⟩ := Request.strips_normalizePath path
  have hstem : Passes (String.ofList stem) (Breadcrumb.segments stem) :=
    passes_iff.mpr (by rw [String.toList_ofList])
  have hpasses := hstem.append_slashes n
  rw [← hpath, String.ofList_toList] at hpasses
  have hsegments : segments = Breadcrumb.segments stem :=
    (passes_iff.mp h).trans (passes_iff.mp hpasses).symm
  rw [hstripped, hsegments]
  split_ifs with hnil
  · subst hnil
    exact hstem.append_slash
  · exact hstem

/-! ## The entries of a trail -/

/-- The URL of the page behind some segments: each of them is followed by a slash. -/
def pageUrl (segments : List (List Char)) : String :=
  String.ofList ('/' :: segments.flatMap (· ++ ['/']))

/-- A hyphen stands for a blank. -/
def unhyphened (c : Char) : Char :=
  if c = '-' then ' ' else c

/-- The entry for a segment has the URL of all segments up to it. -/
theorem getElem?_entries (url : List Char) (segments : List (List Char)) (i : Nat) :
    (entries url segments)[i]? = (segments[i]?).map fun segment =>
      { url := String.ofList (url ++ (segments.take (i + 1)).flatMap (· ++ ['/']))
        text := String.ofList (title segment) } := by
  induction segments generalizing url i with
  | nil => rfl
  | cons segment segments ih =>
    cases i with
    | zero => simp [entries]
    | succ i =>
      rw [entries, List.getElem?_cons_succ, List.getElem?_cons_succ, ih]
      simp

theorem length_entries (url : List Char) (segments : List (List Char)) :
    (entries url segments).length = segments.length := by
  induction segments generalizing url with
  | nil => rfl
  | cons segment segments ih => rw [entries, List.length_cons, ih, List.length_cons]

/-- The entries for fewer segments are the first of the entries. -/
theorem take_entries (url : List Char) (segments : List (List Char)) (i : Nat) :
    (entries url segments).take i = entries url (segments.take i) := by
  induction segments generalizing url i with
  | nil => rw [List.take_nil, entries, List.take_nil]
  | cons segment segments ih =>
    cases i with
    | zero => rfl
    | succ i => rw [entries, List.take_succ_cons, List.take_succ_cons, ih, entries]

/-- The page of an entry is reached through the segments up to the entry. -/
theorem passes_pageUrl_take (h : Passes path segments) (i : Nat) :
    Passes (pageUrl (segments.take i)) (segments.take i) := by
  obtain ⟨text, tail, -, hspells, htext, -⟩ := h
  have hmem : ∀ segment ∈ segments.take i, segment ≠ [] ∧ '/' ∉ segment ∧ segment ⊆ text :=
    fun segment hsegment => hspells.mem (List.mem_of_mem_take hsegment)
  have hspellsTake : Spells (segments.take i) ((segments.take i).flatMap (· ++ ['/'])) :=
    spells_flatMap fun segment hsegment =>
      ⟨(hmem segment hsegment).1, (hmem segment hsegment).2.1⟩
  refine ⟨_, [], ?_, .slash hspellsTake, fun c hc => ?_, by simp⟩
  · rw [pageUrl, String.toList_ofList, List.append_nil]
  · rcases List.mem_cons.mp hc with rfl | hc
    · decide
    · obtain ⟨segment, hsegment, hc⟩ := List.mem_flatMap.mp hc
      rcases List.mem_append.mp hc with hc | hc
      · exact htext c ((hmem segment hsegment).2.2 hc)
      · rw [List.mem_singleton.mp hc]
        decide

theorem take_trail (h : Passes path segments) (home : String) (i : Nat) :
    (trail path home).take (i + 1) = trail (pageUrl (segments.take i)) home := by
  rw [trail, trail, List.take_succ_cons, take_entries, ← passes_iff.mp h,
    ← passes_iff.mp (passes_pageUrl_take h i)]

theorem url_of_getElem?_trail (h : Passes path segments) {home : String} {i : Nat}
    {entry : Breadcrumb} (hentry : (trail path home)[i]? = some entry) :
    entry.url = pageUrl (segments.take i) := by
  rw [trail, ← passes_iff.mp h] at hentry
  cases i with
  | zero =>
    rw [← Option.some.inj hentry]
    rfl
  | succ i =>
    rw [List.getElem?_cons_succ, getElem?_entries, Option.map_eq_some_iff] at hentry
    obtain ⟨segment, -, rfl⟩ := hentry
    rfl

/-- The trail leads from the home page through the segments. -/
structure IsTrail (segments : List (List Char)) (home : String) (crumbs : List Breadcrumb) :
    Prop where
  /-- There is one entry for the home page and one for every segment. -/
  length : crumbs.length = segments.length + 1
  /-- The home page comes first. -/
  home : crumbs[0]? = some { url := "/", text := home }
  /-- The URL of an entry is made of the segments up to the one that the entry is for. Its title is this
  segment with blanks for hyphens and with the full upper case of the first character. -/
  entry : ∀ i segment, segments[i]? = some segment → ∃ c cs, segment = c :: cs ∧
    crumbs[i + 1]? = some
      { url := pageUrl (segments.take (i + 1))
        text := String.ofList (Unicode.Uppercase.ofChar (unhyphened c) ++ cs.map unhyphened) }

/-- The trail of a path has the entry for the root and one for each segment. -/
theorem isTrail_trail (h : Passes path segments) (home : String) :
    IsTrail segments home (trail path home) := by
  have htrail : trail path home = { url := "/", text := home } :: entries ['/'] segments := by
    rw [trail, ← passes_iff.mp h]
  refine ⟨?_, ?_, fun i segment hsegment => ?_⟩
  · rw [htrail, List.length_cons, length_entries]
  · rw [htrail]
    rfl
  · obtain ⟨text, -, -, hspells, -, -⟩ := h
    have hne := (hspells.mem (List.mem_of_getElem? hsegment)).1
    obtain ⟨c, cs, rfl⟩ := List.exists_cons_of_ne_nil hne
    refine ⟨c, cs, rfl, ?_⟩
    rw [htrail, List.getElem?_cons_succ, getElem?_entries, hsegment]
    rfl

/-- The trail to a path leads from the home page through the segments of the path. The trail to the
page of any of its entries is the part of it that ends with this entry. It is the same for all paths
with the same segments, however many slashes stand between, in front of and behind them and whatever
query or fragment follows; in particular it does not change when a query or a fragment is put behind
the path, or when the path is taken from the request that is built from it. -/
theorem trail_prefix_closed (path home : String) :
    ∃ segments, (∀ other, Passes path other ↔ other = segments) ∧
      IsTrail segments home (trail path home) ∧
      (∀ i entry, (trail path home)[i]? = some entry →
        trail entry.url home = (trail path home).take (i + 1)) ∧
      (∀ other, Passes other segments → trail other home = trail path home) ∧
      (∀ rest, trail (path ++ "?" ++ rest) home = trail path home ∧
        trail (path ++ "#" ++ rest) home = trail path home) ∧
      ∀ method request, Request.ofParts method path = .ok request →
        trail request.path home = trail path home := by
  have hpath : Passes path (Breadcrumb.segments path.toList) := passes_iff.mpr rfl
  refine ⟨Breadcrumb.segments path.toList, fun other => passes_iff, isTrail_trail hpath home,
    fun i entry hentry => ?_, fun other hother => hpath.trail_eq hother home, fun rest => ⟨?_, ?_⟩,
    fun method request hrequest => ?_⟩
  · rw [url_of_getElem?_trail hpath hentry, take_trail hpath]
  · rw [String.append_assoc]
    exact hpath.trail_eq (hpath.append (.inl (by simp))) home
  · rw [String.append_assoc]
    exact hpath.trail_eq (hpath.append (.inr (by simp))) home
  · obtain ⟨-, rfl⟩ := Request.ofParts_eq_ok.mp hrequest
    exact hpath.trail_eq hpath.normalizePath home

end Routing.Breadcrumb
