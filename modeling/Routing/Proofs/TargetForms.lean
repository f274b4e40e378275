import Mathlib.Data.List.DropRight
import Mathlib.Tactic.Common
import Routing.Proofs.Incoming
import Routing.Proofs.PathSegments

/-!
# Proofs: the two forms of a target

A target that begins with a slash is read as a path, all of it: it gives what the same text gives
behind the scheme and the host of a web page, whatever these are.
-/

namespace Routing.Url

open Domain

/-! ## Hosts of letters -/

variable {text host : List Char} {c : Char}

theorem isUpper_iff (c : Char) : c.isUpper = true ↔ 65 ≤ c.toNat ∧ c.toNat ≤ 90 := by
  have hupper : c.isUpper = decide (65 ≤ c.val ∧ c.val ≤ 90) := rfl
  rw [hupper, decide_eq_true_eq, UInt32.le_iff_toNat_le, UInt32.le_iff_toNat_le]
  exact Iff.rfl

theorem lt_of_isLower (h : c.isLower = true) : c.toNat < 128 := by
  have := (Text.isLower_iff c).mp h
  omega

theorem lt_of_isAlphanum (h : c.isAlphanum = true) : c.toNat < 128 := by
  rcases (Text.isAlphanum_iff c).mp h with h | h | h
  · have := (isUpper_iff c).mp h
    omega
  · exact lt_of_isLower h
  · exact Nat.lt_of_le_of_lt (Char.isDigit_iff_toNat.mp h).2 (by decide)

theorem isAlphanum_of_isAlpha (h : c.isAlpha = true) : c.isAlphanum = true := by
  have halphanum : c.isAlphanum = (c.isAlpha || c.isDigit) := rfl
  rw [halphanum, h, Bool.true_or]

/-- A letter in lower case is nothing but that to the reader of a host. -/
theorem letter_of_isLower (h : c.isLower = true) :
    isForbidden c = false ∧ c.toLower = c ∧ c.isDigit = false ∧
      (Text.hexValue? c).filter (· < 10) = none :=
  Text.forall_ascii (P := fun c => c.isLower = true → isForbidden c = false ∧ c.toLower = c ∧
    c.isDigit = false ∧ (Text.hexValue? c).filter (· < 10) = none) (by decide +kernel)
    (lt_of_isLower h) h

theorem not_mem_of_isLower (h : ∀ c ∈ text, c.isLower = true) (other : Char)
    (hother : other.isLower = false) : other ∉ text := by
  intro hmem
  rw [h other hmem] at hother
  cases hother

theorem pieces_of_not_mem {stop : Char} (h : stop ∉ text) :
    Text.pieces (· = stop) text = [text] :=
  Text.pieces_of_forall_not _ _ fun _ hc => decide_eq_false fun heq => h (heq ▸ hc)

/-- A host of lower-case letters is no number. -/
theorem endsInNumber_of_isLower (h : ∀ c ∈ text, c.isLower = true) :
    Ipv4.endsInNumber text = false := by
  cases text with
  | nil => rfl
  | cons c cs =>
    have hpieces := pieces_of_not_mem (not_mem_of_isLower h '.' (by decide))
    have hparts : Ipv4.parts (c :: cs) = [c :: cs] := by simp [Ipv4.parts, hpieces]
    have hzero : c ≠ '0' := by
      rintro rfl
      exact absurd (h '0' (by simp)) (by decide)
    obtain ⟨-, -, hdigit, hvalue⟩ := letter_of_isLower (h c (by simp))
    have hnumber : Ipv4.Number.ofPart (c :: cs) = .notNumber := by
      have hdecimal : Ipv4.Number.ofPart (c :: cs) = Ipv4.Number.ofDigits 10 (c :: cs) := by
        unfold Ipv4.Number.ofPart
        split <;> simp_all
      rw [hdecimal]
      simp [Ipv4.Number.ofDigits, Text.numeral?, hvalue]
    simp [Ipv4.endsInNumber, hparts, hdigit, hnumber]

/-- Domain names of lower-case letters are in normal form. -/
theorem normalize?_of_isLower (h : ∀ c ∈ text, c.isLower = true) :
    Domain.normalize? text = some text := by
  have hascii : text.all (fun c => c.toNat < 0x80) = true := by
    simpa using fun c hc => lt_of_isLower (h c hc)
  have hpieces := pieces_of_not_mem (not_mem_of_isLower h '.' (by decide))
  have hlower : text.map Char.toLower = text :=
    (List.map_congr_left fun d hd => (letter_of_isLower (h d hd)).2.1).trans (List.map_id _)
  have hmark : punycodeMark.isPrefixOf text = false := by
    rw [← Bool.not_eq_true, List.isPrefixOf_iff_prefix]
    intro hmarked
    exact not_mem_of_isLower h '-' (by decide) (hmarked.subset (by decide))
  have hforbidden : text.any isForbidden = false := by
    simpa using fun c hc => (letter_of_isLower (h c hc)).1
  simp [Domain.normalize?, hascii, hpieces, hlower, hmark, hforbidden]

/-- So they are hosts under the name that they write. -/
theorem ofDomain_of_isLower (hne : text ≠ []) (h : ∀ c ∈ text, c.isLower = true) :
    Host.ofDomain text = .ok (.name text) := by
  have hdecoded : Text.Utf8.decode (Text.Percent.decode (Text.Utf8.encode text)) = text := by
    have hpercent := not_mem_of_isLower h '%' (by decide)
    have hbytes := Text.Percent.decode_append_of_not_mem
      (Text.Utf8.percent_not_mem_encode hpercent) []
    rw [Text.Percent.decode_nil, List.append_nil] at hbytes
    rw [hbytes, Text.Utf8.decode_encode_of_ascii fun c hc => lt_of_isLower (h c hc)]
  have hbracket : text.head? ≠ some '[' := fun hhead =>
    not_mem_of_isLower h '[' (by decide) (List.mem_of_mem_head? hhead)
  rw [Host.ofDomain, if_neg hbracket]
  simp only [hdecoded, normalize?_of_isLower h]
  cases text with
  | nil => exact absurd rfl hne
  | cons c cs => simp [endsInNumber_of_isLower h]

/-! ## Authorities and schemes -/

theorem takeWhile_append_cons {p : Char → Bool} (hpre : ∀ d ∈ text, p d = true) (hc : p c = false)
    (rest : List Char) : (text ++ c :: rest).takeWhile p = text := by
  rw [List.takeWhile_append_of_pos hpre, List.takeWhile_cons_of_neg (by simp [hc]), List.append_nil]

theorem dropWhile_append_cons {p : Char → Bool} (hpre : ∀ d ∈ text, p d = true) (hc : p c = false)
    (rest : List Char) : (text ++ c :: rest).dropWhile p = c :: rest := by
  rw [List.dropWhile_append_of_pos hpre, List.dropWhile_cons_of_neg (by simp [hc])]

/-- Without an at sign there are no credentials. -/
theorem splitCredentials_of_not_mem (h : '@' ∉ text) : splitCredentials text = (none, text) := by
  have htake : text.reverse.takeWhile (· ≠ '@') = text.reverse :=
    List.takeWhile_eq_self_iff.mpr fun c hc => by
      rw [List.mem_reverse] at hc
      simpa using fun heq : c = '@' => h (heq ▸ hc)
  unfold splitCredentials
  rw [htake]
  simp

theorem splitPort_of_not_mem (h : ':' ∉ text) (inBrackets : Bool) :
    splitPort inBrackets text = (text, []) := by
  induction text generalizing inBrackets with
  | nil => rfl
  | cons c cs ih =>
    rw [List.mem_cons, not_or] at h
    simp [splitPort, Ne.symm h.1, ih h.2]

/-- A host of letters is read up to the slash behind it. -/
theorem readAuthority_of_isLower (hne : host ≠ []) (h : ∀ c ∈ host, c.isLower = true)
    (rest : List Char) : readAuthority .web (host ++ '/' :: rest) = .ok ('/' :: rest) := by
  have hends : ∀ c ∈ host, (!SchemeKind.web.endsAuthority c) = true := fun c hc =>
    Text.forall_ascii (P := fun c => c.isLower = true → (!SchemeKind.web.endsAuthority c) = true)
      (by decide +kernel) (lt_of_isLower (h c hc)) (h c hc)
  have hslash : (!SchemeKind.web.endsAuthority '/') = false := by decide
  have hcredentials := splitCredentials_of_not_mem (not_mem_of_isLower h '@' (by decide))
  have hport := splitPort_of_not_mem (not_mem_of_isLower h ':' (by decide)) false
  unfold readAuthority
  simp [takeWhile_append_cons hends hslash, dropWhile_append_cons hends hslash, hcredentials, hport,
    hne, ofDomain_of_isLower hne h, bind, Except.bind, pure, Except.pure]

theorem readSchemeTail_append (h : ∀ c ∈ text, c.isAlpha = true) (rest : List Char) :
    readSchemeTail (text ++ ':' :: rest) = some (text.map Char.toLower, rest) := by
  induction text with
  | nil => rfl
  | cons c cs ih =>
    have hc : c.isAlpha = true := h c (by simp)
    have hcolon : c ≠ ':' := by
      rintro rfl
      exact absurd hc (by decide)
    have halphanum := isAlphanum_of_isAlpha hc
    rw [List.cons_append, readSchemeTail, if_neg hcolon, if_pos (by simp [halphanum]),
      ih fun d hd => h d (by simp [hd])]
    rfl

/-- The letters in front of the first colon are the scheme, in lower case. -/
theorem readScheme_append (hne : text ≠ []) (h : ∀ c ∈ text, c.isAlpha = true) (rest : List Char) :
    readScheme (text ++ ':' :: rest) = some (String.ofList (text.map Char.toLower), rest) := by
  have htail := readSchemeTail_append h rest
  cases text with
  | nil => exact absurd rfl hne
  | cons c cs =>
    rw [List.cons_append] at htail ⊢
    rw [readScheme, if_pos (h c (by simp)), htail]
    rfl

theorem isAlpha_of_isLower_toLower (h : c.toLower.isLower = true) : c.isAlpha = true := by
  have halpha : c.isAlpha = (c.isUpper || c.isLower) := rfl
  cases hupper : c.isUpper with
  | true => rw [halpha, hupper, Bool.true_or]
  | false =>
    have hself : c.toLower = c := by
      refine dif_neg fun hrange => ?_
      rw [(isUpper_iff c).mpr hrange] at hupper
      cases hupper
    rw [halpha, ← hself, h, Bool.or_true]

theorem lt_toNat_of_isAlpha (h : c.isAlpha = true) : 0x20 < c.toNat :=
  Text.forall_ascii (P := fun c => c.isAlpha = true → 0x20 < c.toNat) (by decide)
    (lt_of_isAlphanum (isAlphanum_of_isAlpha h)) h

/-! ## What is left out -/

theorem dropEndWhile_append_cons {p : Char → Bool} (hc : p c = false) (rest : List Char) :
    Text.dropEndWhile p (text ++ c :: rest) = text ++ c :: Text.dropEndWhile p rest := by
  unfold Text.dropEndWhile
  rw [List.reverse_append, List.reverse_cons, List.append_assoc, List.singleton_append,
    List.dropWhile_append]
  split_ifs with hempty
  · rw [List.isEmpty_iff.mp hempty, List.dropWhile_cons_of_neg (by simp [hc])]
    simp
  · simp

/-- The rest of a text that is cleaned, behind a slash. -/
def cleanRest (rest : List Char) : List Char :=
  (Text.dropEndWhile (fun c => c.toNat ≤ 0x20) rest).filter fun c =>
    c ≠ '\t' && c ≠ '\n' && c ≠ '\r'

/-- Nothing is left out of what stands before a slash, if there are no control characters in it. -/
theorem clean_append_slash (h : ∀ c ∈ text, 0x20 < c.toNat) (rest : List Char) :
    clean (text ++ '/' :: rest) = text ++ '/' :: cleanRest rest := by
  have hhead : (text ++ '/' :: rest).dropWhile (fun c => c.toNat ≤ 0x20) = text ++ '/' :: rest := by
    cases text with
    | nil => rfl
    | cons c cs =>
      have hc : 0x20 < c.toNat := h c (by simp)
      exact List.dropWhile_cons_of_neg (by simpa using hc)
  have hkeep : ∀ c ∈ text, (c ≠ '\t' && c ≠ '\n' && c ≠ '\r') = true := fun c hc => by
    have hne : ∀ d : Char, d.toNat ≤ 0x20 → c ≠ d := fun d hd heq => by
      have := h c hc
      rw [heq] at this
      omega
    simp [hne '\t' (by decide), hne '\n' (by decide), hne '\r' (by decide)]
  unfold clean Text.stripWhile
  rw [hhead, dropEndWhile_append_cons (by decide), List.filter_append,
    List.filter_eq_self.mpr hkeep, List.filter_cons_of_pos (by decide)]
  rfl

/-! ## Web pages -/

/-- Both schemes of the web consist of letters, in any case. -/
theorem isAlpha_of_asciiLower {scheme : String} (h : Text.asciiLower scheme ∈ ["http", "https"]) :
    ∀ c ∈ scheme.toList, c.isAlpha = true := by
  intro c hc
  have hmem : c.toLower ∈ (Text.asciiLower scheme).toList := by
    rw [Text.toList_asciiLower]
    exact List.mem_map_of_mem hc
  have hlower : ∀ name ∈ ["http", "https"], ∀ d ∈ name.toList, d.isLower = true := by simp
  exact isAlpha_of_isLower_toLower (hlower _ h _ hmem)

/-- Behind the scheme and the host of a web page, a text that begins with a slash is read as a
path. -/
theorem parse_page {scheme : String} (hscheme : Text.asciiLower scheme ∈ ["http", "https"])
    (hne : host ≠ []) (hhost : ∀ c ∈ host, c.isLower = true) (rest : List Char) :
    parse (scheme.toList ++ ':' :: '/' :: '/' :: host ++ '/' :: rest) =
      .ok (ofPathText .web (cleanRest rest)) := by
  have halpha := isAlpha_of_asciiLower hscheme
  have hempty : scheme.toList ≠ [] := by
    rintro hnil
    rw [String.toList_eq_nil_iff.mp hnil] at hscheme
    exact absurd hscheme (by decide)
  have hvisible : ∀ c ∈ scheme.toList ++ ':' :: '/' :: '/' :: host, 0x20 < c.toNat := by
    intro c hc
    rw [List.mem_append, List.mem_cons, List.mem_cons, List.mem_cons] at hc
    rcases hc with hc | rfl | rfl | rfl | hc
    · exact lt_toNat_of_isAlpha (halpha c hc)
    · decide
    · decide
    · decide
    · have := (Text.isLower_iff c).mp (hhost c hc)
      omega
  have hread : readScheme (clean (scheme.toList ++ ':' :: '/' :: '/' :: host ++ '/' :: rest)) =
      some (Text.asciiLower scheme,
        '/' :: '/' :: (host ++ '/' :: cleanRest rest)) := by
    rw [clean_append_slash hvisible, List.append_assoc, List.cons_append]
    exact readScheme_append hempty halpha _
  have hkind : SchemeKind.ofScheme (Text.asciiLower scheme) = .web := by
    have hkinds : ∀ name ∈ ["http", "https"], SchemeKind.ofScheme name = .web := by decide
    exact hkinds _ hscheme
  have hslashes : ('/' :: '/' :: (host ++ '/' :: cleanRest rest)).takeWhile
        SchemeKind.web.isSlash = ['/', '/'] ∧
      ('/' :: '/' :: (host ++ '/' :: cleanRest rest)).dropWhile SchemeKind.web.isSlash =
        host ++ '/' :: cleanRest rest := by
    obtain ⟨c, cs, rfl⟩ := List.exists_cons_of_ne_nil hne
    have hc : SchemeKind.web.isSlash c = false :=
      Text.forall_ascii (P := fun c => c.isLower = true → SchemeKind.web.isSlash c = false)
        (by decide +kernel) (lt_of_isLower (hhost c (by simp))) (hhost c (by simp))
    have hslash : SchemeKind.web.isSlash '/' = true := by decide
    exact ⟨by simp [hc, hslash], by simp [hc, hslash]⟩
  unfold parse
  simp only [hread, hkind, hslashes.1, hslashes.2]
  rw [if_neg (by simp), ofAuthority, readAuthority_of_isLower hne hhost]
  rfl

/-! ## Paths that stay as they are -/

/-- A character that every reader of a path leaves as it is. -/
def IsPathLetter (c : Char) : Prop :=
  c.isAlphanum = true ∨ c ∈ ['/', '-', '_']

instance : DecidablePred IsPathLetter := fun _ => inferInstanceAs (Decidable (_ ∨ _))

/-- A letter of a path is visible, does not end the path and is written as it stands. -/
theorem IsPathLetter.facts (h : IsPathLetter c) :
    0x20 < c.toNat ∧ endsPath c = false ∧ Path.isPlain c = true ∧
      (SchemeKind.web.isSlash c = true ↔ c = '/') ∧ c ≠ '.' ∧ c ≠ '%' := by
  have hc : c.toNat < 128 := by
    rcases h with h | h
    · exact lt_of_isAlphanum h
    · have hascii : ∀ d ∈ ['/', '-', '_'], d.toNat < 128 := by simp
      exact hascii c h
  exact Text.forall_ascii (P := fun c => IsPathLetter c → 0x20 < c.toNat ∧ endsPath c = false ∧
    Path.isPlain c = true ∧ (SchemeKind.web.isSlash c = true ↔ c = '/') ∧ c ≠ '.' ∧ c ≠ '%')
    (by decide +kernel) hc h

theorem IsPathLetter.not_mem_breaks (h : IsPathLetter c) : c ∉ ['\t', '\n', '\r'] := by
  have hbreaks : ∀ d ∈ ['\t', '\n', '\r'], d.toNat ≤ 0x20 := by simp
  exact fun hc => absurd h.facts.1 (Nat.not_lt.mpr (hbreaks c hc))

/-- Nothing is left out of a text without tabs and line ends that does not end in a control
character or a blank. -/
theorem cleanRest_eq_self {rest : List Char} (hlast : ∀ c, rest.getLast? = some c → 0x20 < c.toNat)
    (h : ∀ c ∈ rest, c ∉ ['\t', '\n', '\r']) : cleanRest rest = rest := by
  have hdrop : Text.dropEndWhile (fun c => c.toNat ≤ 0x20) rest = rest :=
    Text.dropEndWhile_eq_self fun c hc => by simpa using hlast c hc
  rw [cleanRest, hdrop, List.filter_eq_self]
  intro c hc
  have := h c hc
  simp only [List.mem_cons, List.not_mem_nil, or_false, not_or] at this
  simp [this]

/-- A path of such letters is written as it was read. -/
theorem render_segments_of_letters {rest : List Char} (h : ∀ c ∈ rest, IsPathLetter c) :
    Path.render (Path.segments .web rest) = '/' :: rest := by
  have hletters : ∀ piece ∈ Text.pieces SchemeKind.web.isSlash rest, ∀ c ∈ piece, IsPathLetter c :=
    fun piece hpiece c hc => h c (Text.of_mem_pieces hpiece hc).1
  have hencode : (Text.pieces SchemeKind.web.isSlash rest).map (Text.Percent.encode Path.isPlain) =
      Text.pieces SchemeKind.web.isSlash rest := by
    refine (List.map_congr_left fun piece hpiece => ?_).trans (List.map_id _)
    exact Text.Percent.encode_of_forall _ _ fun c hc => (hletters piece hpiece c hc).facts.2.2.1
  have hdots : ∀ piece ∈ Text.pieces SchemeKind.web.isSlash rest, ¬ Path.IsDotSegment piece := by
    intro piece hpiece hdot
    rcases hdot.mem with hmem | hmem
    · exact (hletters piece hpiece _ hmem).facts.2.2.2.2.1 rfl
    · exact (hletters piece hpiece _ hmem).facts.2.2.2.2.2 rfl
  have hsegments : Path.segments .web rest = Text.pieces SchemeKind.web.isSlash rest := by
    unfold Path.segments
    dsimp only
    rw [if_neg (by decide), hencode, Path.resolve_eq (by decide) hdots, List.reverse_nil,
      List.nil_append]
  rw [hsegments, Path.render_pieces fun c hc => (h c hc).facts.2.2.2.1]

end Routing.Url

namespace Routing.Target

open Url

variable {target : String} {rest : List Char}

/-- The target whose path, with a query and a fragment behind it, is given by what follows its first
slash. -/
def ofPathText (rest : List Char) : Target where
  path := String.ofList (Path.render (Path.segments .web (rest.takeWhile fun c => !endsPath c)))
  query := (Query.ofText? .web (rest.dropWhile fun c => !endsPath c)).map String.ofList

theorem ofText_of_url (h : url target = .ok (Url.ofPathText .web rest)) :
    ofText target = .ok (ofPathText rest) := by
  unfold ofText
  rw [h]
  rfl

/-- A target that begins with a slash is read as the path of a URL of the web. -/
theorem url_of_slash (h : target.toList = '/' :: rest) :
    url target = .ok (Url.ofPathText .web (cleanRest rest)) := by
  rw [url, if_pos (by rw [h]; rfl), h]
  have hscheme : Text.asciiLower "http" ∈ ["http", "https"] := by decide
  have hhost : ∀ c ∈ "localhost".toList, c.isLower = true := by simp
  exact parse_page hscheme (by decide) hhost rest

theorem ofText_of_slash (h : target.toList = '/' :: rest) :
    ofText target = .ok (ofPathText (cleanRest rest)) :=
  ofText_of_url (url_of_slash h)

/-- A target with scheme and host gives the target of its path. -/
theorem ofText_of_page {scheme host path : String}
    (hscheme : Text.asciiLower scheme ∈ ["http", "https"]) (hne : host ≠ "")
    (hhost : ∀ c ∈ host.toList, c.isLower = true) (hpath : path.toList = '/' :: rest) :
    ofText (scheme ++ "://" ++ host ++ path) = .ok (ofPathText (cleanRest rest)) := by
  have hlist : (scheme ++ "://" ++ host ++ path).toList =
      scheme.toList ++ ':' :: '/' :: '/' :: host.toList ++ '/' :: rest := by
    rw [String.toList_append, String.toList_append, String.toList_append, hpath]
    simp
  have hhead : (scheme ++ "://" ++ host ++ path).toList.head? ≠ some '/' := by
    rw [hlist]
    have halpha := isAlpha_of_asciiLower hscheme
    cases hchars : scheme.toList with
    | nil => simp
    | cons c cs =>
      rw [hchars] at halpha
      simpa using fun heq : c = '/' => absurd (halpha c (by simp)) (by rw [heq]; decide)
  refine ofText_of_url ?_
  rw [url, if_neg hhead, hlist]
  exact parse_page hscheme (mt String.toList_eq_nil_iff.mp hne) hhost rest

/-- A path of letters is read as it is. -/
theorem ofText_of_letters {path : String} (hpath : path.toList.head? = some '/')
    (h : ∀ c ∈ path.toList, IsPathLetter c) : ofText path = .ok { path, query := none } := by
  obtain ⟨rest, hrest⟩ := List.head?_eq_some_iff.mp hpath
  have hletters : ∀ c ∈ rest, IsPathLetter c := fun c hc => h c (by simp [hrest, hc])
  have hclean : cleanRest rest = rest := by
    refine cleanRest_eq_self (fun c hc => ?_) fun c hc => (hletters c hc).not_mem_breaks
    exact (hletters c (List.mem_of_getLast? hc)).facts.1
  have hends : ∀ c ∈ rest, (!endsPath c) = true := fun c hc => by simp [(hletters c hc).facts.2.1]
  rw [ofText_of_slash hrest, hclean, ofPathText, List.takeWhile_eq_self_iff.mpr hends,
    List.dropWhile_eq_nil_iff.mpr hends, render_segments_of_letters hletters, ← hrest,
    String.ofList_toList]
  rfl

/-- A target that begins with a slash is read as a path, with a query and a fragment behind it, from
that slash on: a second slash begins no host. It is read as the same path and the same query behind
the scheme, in any letter case, and the host of a web page. A path of letters, digits, slashes,
hyphens and underscores is left as it is, so that the same request is built from it whether or not
it is read as a target. -/
theorem ofText_origin_form (p : String) (hp : p.toList.head? = some '/') :
    (∃ rest, clean p.toList = '/' :: rest ∧ ofText p = .ok (ofPathText rest) ∧
      ∀ scheme host : String, Text.asciiLower scheme ∈ ["http", "https"] → host ≠ "" →
        (∀ c ∈ host.toList, c.isLower = true) →
          ofText (scheme ++ "://" ++ host ++ p) = .ok (ofPathText rest)) ∧
    ((∀ c ∈ p.toList, IsPathLetter c) →
      ofText p = .ok { path := p, query := none } ∧
      ∀ method, RawRequest.toRequest { method, target := p, form := none } =
        Request.ofParts method p) := by
  obtain ⟨rest, hrest⟩ := List.head?_eq_some_iff.mp hp
  refine ⟨⟨cleanRest rest, ?_, ofText_of_slash hrest, ?_⟩, fun hletters => ?_⟩
  · rw [hrest]
    have hfront : ∀ c ∈ ([] : List Char), 0x20 < c.toNat := by simp
    exact clean_append_slash hfront rest
  · intro scheme host hscheme hne hhost
    exact ofText_of_page hscheme hne hhost hrest
  · have htarget := ofText_of_letters hp hletters
    refine ⟨htarget, fun method => ?_⟩
    let raw : RawRequest := { method, target := p, form := none }
    have hmethod : raw.effectiveMethod = method := rfl
    have hpairs : raw.writtenPairs { path := p, query := none } = [] := rfl
    change raw.toRequest = _
    rw [raw.toRequest_of_ok htarget, hmethod, hpairs]
    cases Request.ofParts method p <;> rfl

/-- A name behind two slashes is part of the path, in either form. -/
theorem ofText_origin_form_two_slashes :
    let p := "//name/a/..\\b?x=1#f"
    let target : Target := { path := "//name/b", query := some "x=1" }
    p.toList.head? = some '/' ∧ ofText p = .ok target ∧
      ofText ("hTTps" ++ "://" ++ "host" ++ p) = .ok target ∧
      ofText "//name/a-1" = .ok { path := "//name/a-1", query := none } := by
  intro p target
  obtain ⟨⟨rest, hclean, hread, hpage⟩, -⟩ := ofText_origin_form p (by decide)
  have hrest : ofPathText rest = target := by
    have hchars : clean p.toList = '/' :: "/name/a/..\\b?x=1#f".toList := by decide +kernel
    rw [(List.cons.inj (hclean.symm.trans hchars)).2]
    decide +kernel
  rw [hrest] at hread hpage
  exact ⟨by decide, hread, hpage "hTTps" "host" (by decide +kernel) (by decide) (by simp),
    ((ofText_origin_form "//name/a-1" (by decide)).2 (by simp [IsPathLetter])).1⟩

end Routing.Target
