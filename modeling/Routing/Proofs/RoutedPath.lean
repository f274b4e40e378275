import Routing.Proofs.Incoming
import Routing.Proofs.PathSegments

/-!
# Proofs: the paths that are routed

Whatever the form of its target, the path of a request that comes in begins with a slash, holds
visible characters of ASCII only and never leads upwards: no segment of it is a dot segment, not even
an encoded one. A target with any other kind of path is refused.
-/

namespace Routing

/-! ## Paths of URLs -/

namespace Url

open Routing.Url.Path

variable {url : Url} {text : List Char}

/-- The path, if there is one, is written from segments that have been resolved. -/
def HasSegments (url : Url) : Prop :=
  ∀ path, url.path = some path → ∃ kind rest, path = render (Path.segments kind rest)

/-- A URL made of the text of a path has its resolved segments. -/
theorem hasSegments_ofPathText (kind : SchemeKind) (text : List Char) :
    HasSegments (ofPathText kind text) := by
  intro path hpath
  exact ⟨kind, _, (Option.some.inj hpath).symm⟩

theorem hasSegments_pathless (kind : SchemeKind) (text : List Char) :
    HasSegments (pathless kind text) := by
  intro path hpath
  cases hpath

/-- The path behind a host is made of resolved segments. -/
theorem hasSegments_ofAuthority {kind : SchemeKind} (h : ofAuthority kind text = .ok url) :
    HasSegments url := by
  unfold ofAuthority at h
  cases hread : readAuthority kind text with
  | error defect =>
    rw [hread] at h
    cases h
  | ok rest =>
    rw [hread] at h
    obtain rfl := Except.ok.inj h
    unfold ofBehindAuthority
    split_ifs
    · exact hasSegments_pathless kind rest
    · exact hasSegments_ofPathText kind _

theorem hasSegments_ofRelative (h : ofRelative text = .ok url) : HasSegments url := by
  unfold ofRelative at h
  dsimp only at h
  split_ifs at h
  · obtain rfl := Except.ok.inj h
    exact hasSegments_ofPathText .web _
  · split at h <;> exact hasSegments_ofAuthority h

/-- File URLs have resolved segments, with a host or without one, and whether or not the path begins
with a drive. -/
theorem hasSegments_ofFile (h : ofFile text = .ok url) : HasSegments url := by
  unfold ofFile at h
  split at h
  · rename_i c d rest
    dsimp only at h
    split_ifs at h with hslashes hdrive hempty
    · obtain rfl := Except.ok.inj h
      exact hasSegments_ofPathText .file _
    · obtain rfl := Except.ok.inj h
      exact hasSegments_ofPathText .file _
    · cases hhost : Host.ofDomain (rest.takeWhile fun c => !SchemeKind.file.endsAuthority c) with
      | error defect =>
        rw [hhost] at h
        cases h
      | ok host =>
        simp only [hhost, bind, Except.bind, pure, Except.pure] at h
        split_ifs at h <;> obtain rfl := Except.ok.inj h <;> exact hasSegments_ofPathText .file _
    · obtain rfl := Except.ok.inj h
      exact hasSegments_ofPathText .file _
  · obtain rfl := Except.ok.inj h
    exact hasSegments_ofPathText .file _

/-- URLs of other schemes have resolved segments, or no path at all. -/
theorem hasSegments_ofOther (h : ofOther text = .ok url) : HasSegments url := by
  unfold ofOther at h
  split at h
  · exact hasSegments_ofAuthority h
  · obtain rfl := Except.ok.inj h
    exact hasSegments_ofPathText .other _
  · obtain rfl := Except.ok.inj h
    exact hasSegments_pathless .other _

/-- Whatever its scheme is, a URL that has been read has resolved segments, or no path at all. -/
theorem hasSegments_parse (h : parse text = .ok url) : HasSegments url := by
  unfold parse at h
  dsimp only at h
  split at h
  · exact hasSegments_ofRelative h
  · split at h
    · exact hasSegments_ofFile h
    · exact hasSegments_ofOther h
    · split_ifs at h
      · exact hasSegments_ofRelative h
      · exact hasSegments_ofAuthority h

end Url

/-! ## Slashes at the end -/

namespace Text

/-- Slashes at the end add empty pieces and leave the others. -/
theorem pieces_append_replicate {sep : Char → Bool} {c : Char} (hc : sep c = true) (cs : List Char)
    (n : Nat) : pieces sep (cs ++ List.replicate n c) = pieces sep cs ++ List.replicate n [] := by
  induction n with
  | zero => simp
  | succ n ih =>
    rw [List.replicate_succ', ← List.append_assoc, pieces_concat hc, ih, List.append_assoc,
      ← List.replicate_succ']

end Text

/-! ## Requests -/

namespace Request

open Url.Path

/-- A path on which routes are matched. -/
structure IsRoutable (path : String) : Prop where
  /-- It begins with a slash. -/
  rooted : path.toList.head? = some '/'
  /-- It is the root or does not end in a slash. -/
  trimmed : path = "/" ∨ path.toList.getLast? ≠ some '/'
  /-- Its characters are visible ones of ASCII. -/
  visible : ∀ c ∈ path.toList, 0x21 ≤ c.toNat ∧ c.toNat ≤ 0x7E
  /-- None of them begins a query or a fragment. -/
  unmarked : '?' ∉ path.toList ∧ '#' ∉ path.toList
  /-- No segment is a dot segment. -/
  undotted : ∀ segment ∈ Text.pieces (· = '/') path.toList, ¬ IsDotSegment segment

theorem isRoutable_root : IsRoutable "/" where
  rooted := by decide
  trimmed := .inl rfl
  visible := by simp
  unmarked := by decide
  undotted := by
    intro segment hsegment
    have hempty : ∀ piece ∈ Text.pieces (· = '/') "/".toList, piece = [] := by decide
    rw [hempty segment hsegment]
    exact isResolved_nil.dots

theorem isPlain_of_mem_render {segments : List Url.Segment} (h : ∀ s ∈ segments, IsResolved s)
    {c : Char} (hc : c ∈ render segments) : isPlain c = true := by
  obtain ⟨segment, hsegment, hmem⟩ := List.mem_flatMap.mp hc
  rcases List.mem_cons.mp hmem with rfl | hmem
  · decide
  · exact (h segment hsegment).plain c hmem

/-- A path written from resolved segments can be routed once the slashes at its end are gone. -/
theorem isRoutable_of_strips {segments : List Url.Segment} (h : ∀ s ∈ segments, IsResolved s)
    (hne : segments ≠ []) {path : String}
    (hstrips : Strips (String.ofList (render segments)) path) : IsRoutable path := by
  obtain ⟨stem, n, hsplit, hlast, hpath⟩ := hstrips
  rw [String.toList_ofList] at hsplit
  by_cases hstem : stem = []
  · rw [hpath, if_pos hstem]
    exact isRoutable_root
  · rw [if_neg hstem] at hpath
    have hlist : path.toList = stem := by rw [hpath, String.toList_ofList]
    have hplain : ∀ c ∈ stem, isPlain c = true := fun c hc =>
      isPlain_of_mem_render h (by rw [hsplit]; exact List.mem_append_left _ hc)
    refine ⟨?_, .inr ?_, ?_, ?_, ?_⟩ <;> rw [hlist]
    · have hhead : (stem ++ List.replicate n '/').head? = some '/' := by
        rw [← hsplit]
        obtain ⟨segment, rest, rfl⟩ := List.exists_cons_of_ne_nil hne
        rfl
      rwa [List.head?_append_of_ne_nil stem hstem] at hhead
    · exact hlast
    · intro c hc
      have hc := hplain c hc
      simp only [isPlain, Bool.and_eq_true, decide_eq_true_eq] at hc
      exact hc.1
    · exact ⟨fun hmem => absurd (hplain '?' hmem) (by decide),
        fun hmem => absurd (hplain '#' hmem) (by decide)⟩
    · intro segment hsegment
      have hmem : segment ∈ Text.pieces (· = '/') (render segments) := by
        rw [hsplit, Text.pieces_append_replicate (by decide)]
        exact List.mem_append_left _ hsegment
      rw [pieces_render fun s hs => (h s hs).slash] at hmem
      rcases List.mem_cons.mp hmem with rfl | hmem
      · exact isResolved_nil.dots
      · exact (h segment hmem).dots

end Request

namespace RawRequest

open Url.Path

variable {raw : RawRequest} {target : Target}

theorem hasSegments_of_url {text : String} {url : Url} (h : Target.url text = .ok url) :
    url.HasSegments := by
  unfold Target.url at h
  split_ifs at h <;> exact Url.hasSegments_parse h

/-- The path of a target that has been read is written from resolved segments. -/
theorem exists_segments_of_ofText {text : String} (h : Target.ofText text = .ok target) :
    ∃ kind rest, target.path = String.ofList (render (Url.Path.segments kind rest)) := by
  unfold Target.ofText at h
  split at h
  · cases h
  · cases h
  · rename_i path query hurl
    obtain rfl := Except.ok.inj h
    obtain ⟨kind, rest, rfl⟩ := hasSegments_of_url hurl path rfl
    exact ⟨kind, rest, rfl⟩

/-- Every request that comes in has a path on which routes can be matched, whatever its target looks
like, and a target whose path does not begin with a slash is refused. -/
theorem isRoutable_of_toRequest (raw : RawRequest) :
    (∀ request, raw.toRequest = .ok request → Request.IsRoutable request.path) ∧
      ∀ url, Target.url raw.target = .ok url → (∀ rest, url.path ≠ some ('/' :: rest)) →
        raw.toRequest = .error (.invalidRequest (.rootlessTarget raw.target)) := by
  constructor
  · intro request hrequest
    obtain ⟨target, htarget⟩ := exists_target_of_toRequest hrequest
    obtain ⟨built, hbuilt, rfl⟩ := exists_ofParts_of_toRequest htarget hrequest
    obtain ⟨kind, rest, hpath⟩ := exists_segments_of_ofText htarget
    obtain ⟨hresolved, hne⟩ := isResolved_of_mem_segments kind rest
    refine Request.isRoutable_of_strips hresolved hne ?_
    rw [← hpath]
    exact (builds_of_ofParts hbuilt).path
  · intro url hurl hrootless
    have hnone : url.path = none := by
      cases hpath : url.path with
      | none => rfl
      | some path =>
        obtain ⟨kind, rest, rfl⟩ := hasSegments_of_url hurl path hpath
        obtain ⟨segment, segments, hsegments⟩ :=
          List.exists_cons_of_ne_nil (isResolved_of_mem_segments kind rest).2
        rw [hsegments] at hpath
        exact absurd hpath (hrootless _)
    refine toRequest_of_error ?_
    unfold Target.ofText
    obtain ⟨path, query⟩ := url
    obtain rfl : path = none := hnone
    rw [hurl]

/-- A traversal that is hidden by encoding and by a tab leads no further than to the root of a
drive, and a mail address is refused. -/
theorem isRoutable_of_toRequest_drive :
    let raw : RawRequest :=
      { method := "get", target := "file:///c:/a/.\t%2E\\%2e./b/", form := none }
    let mail : RawRequest := { raw with target := "mailto:someone" }
    raw.toRequest = .ok { method := "GET", path := "/c:/b", params := [] } ∧
      Request.IsRoutable "/c:/b" ∧
      mail.toRequest = .error (.invalidRequest (.rootlessTarget "mailto:someone")) := by
  intro raw mail
  have hrequest : raw.toRequest = .ok { method := "GET", path := "/c:/b", params := [] } := by
    decide +kernel
  have hmail : Target.url mail.target = .ok { path := none, query := none } := by decide +kernel
  exact ⟨hrequest, (isRoutable_of_toRequest raw).1 _ hrequest,
    (isRoutable_of_toRequest mail).2 _ hmail (by simp)⟩

end RawRequest

end Routing
