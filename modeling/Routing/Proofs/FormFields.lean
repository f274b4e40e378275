import Routing.Proofs.TargetForms

/-!
# Proofs: fields of queries and of form bodies

A form may be sent in the query of a target or as the body of a request. In a query it is encoded
before it is read. This does not change what is read: no separator is encoded and none comes into
the text, every triple is left as it is, and none is completed by what is written behind it.
-/

namespace Routing.Form

open Text Percent Utf8

/-! ## Names and values -/

/-- A plus sign stands for a blank. -/
def spaced (c : Char) : Char :=
  if c = '+' then ' ' else c

theorem decodeComponent_eq (cs : List Char) : decodeComponent cs =
    String.ofList (Utf8.decode (Percent.decode (Utf8.encode (cs.map spaced)))) := rfl

/-- The characters that stand for themselves are such that a form is not changed by writing the
others out. -/
structure IsTransparent (keep : Char → Bool) : Prop where
  /-- Only characters of ASCII are kept. -/
  ascii : ∀ c, keep c = true → c.toNat < 128
  /-- Those that have a meaning in forms are. -/
  mark : ∀ c ∈ ['%', '+', '&', '='], keep c = true
  /-- The digits behind a percent sign are. -/
  digit : ∀ c, isHexDigit c = true → keep c = true

variable {keep : Char → Bool} {c : Char}

theorem spaced_eq_self (hc : c ≠ '+') : spaced c = c := if_neg hc

theorem spaced_of_isHexDigit (h : isHexDigit c = true) : spaced c = c := by
  refine spaced_eq_self ?_
  rintro rfl
  exact absurd h (by decide)

theorem spaced_ne_percent (hc : c ≠ '%') : spaced c ≠ '%' := by
  unfold spaced
  split_ifs
  · decide
  · exact hc

theorem toNat_spaced_lt (hc : c.toNat < 128) : (spaced c).toNat < 128 := by
  unfold spaced
  split_ifs
  · decide
  · exact hc

/-- The bytes of a form, before its triples are read. -/
def rawBytes (cs : List Char) : List UInt8 :=
  Utf8.encode (cs.map spaced)

theorem rawBytes_cons_of_ascii (hc : c.toNat < 128) (cs : List Char) :
    rawBytes (c :: cs) = UInt8.ofNat (spaced c).toNat :: rawBytes cs := by
  rw [rawBytes, List.map_cons, Utf8.encode_cons, utf8EncodeChar_of_ascii (toNat_spaced_lt hc)]
  rfl

theorem encode_cons_of_keep (hc : keep c = true) (cs : List Char) :
    Percent.encode keep (c :: cs) = c :: Percent.encode keep cs := by
  simp [Percent.encode, encodeChar, hc]

/-- A character that is written out is not the plus sign, nor are its triples changed by the meaning
of that sign. -/
theorem rawBytes_encode_cons_of_not_keep (hc : keep c = false) (cs : List Char) :
    rawBytes (Percent.encode keep (c :: cs)) =
      Utf8.encode ((String.utf8EncodeChar c).flatMap encodeByte) ++
        rawBytes (Percent.encode keep cs) := by
  have hchar : encodeChar keep c = (String.utf8EncodeChar c).flatMap encodeByte := by
    simp [encodeChar, hc]
  have hspaced : ((String.utf8EncodeChar c).flatMap encodeByte).map spaced =
      (String.utf8EncodeChar c).flatMap encodeByte := by
    refine (List.map_congr_left fun d hd => ?_).trans (List.map_id _)
    obtain ⟨b, -, hb⟩ := List.mem_flatMap.mp hd
    rcases mem_encodeByte hb with rfl | hdigit
    · rfl
    · exact spaced_of_isHexDigit hdigit
  have hencode : Percent.encode keep (c :: cs) =
      (String.utf8EncodeChar c).flatMap encodeByte ++ Percent.encode keep cs := by
    rw [← hchar]
    rfl
  rw [rawBytes, hencode, List.map_append, hspaced, Utf8.encode_append]
  rfl

theorem rawBytes_cons_of_not_keep (hkeep : IsTransparent keep) (hc : keep c = false)
    (cs : List Char) : rawBytes (c :: cs) = String.utf8EncodeChar c ++ rawBytes cs := by
  have hplus : c ≠ '+' := by
    rintro rfl
    rw [hkeep.mark '+' (by decide)] at hc
    cases hc
  rw [rawBytes, List.map_cons, spaced_eq_self hplus, Utf8.encode_cons]
  rfl

theorem firstDigit?_rawBytes_cons (c : Char) (cs : List Char) :
    firstDigit? (rawBytes (c :: cs)) = hexValue? c := by
  rw [rawBytes, List.map_cons, Utf8.encode_cons, firstDigit?_utf8EncodeChar]
  unfold spaced
  split_ifs with hplus
  · rw [hplus]
    rfl
  · rfl

/-- The first bytes of a text and of what is written of it are the same digit, or none. -/
theorem firstDigit?_rawBytes_encode (hkeep : IsTransparent keep) (cs : List Char) :
    firstDigit? (rawBytes (Percent.encode keep cs)) = firstDigit? (rawBytes cs) := by
  cases cs with
  | nil => rfl
  | cons c cs =>
    rw [firstDigit?_rawBytes_cons]
    cases hc : keep c with
    | true => rw [encode_cons_of_keep hc, firstDigit?_rawBytes_cons]
    | false =>
      -- what is written begins with a percent sign
      have hdigit : hexValue? c = none := by
        rw [← isHexDigit_eq_false_iff, ← Bool.not_eq_true]
        intro h
        rw [hkeep.digit c h] at hc
        cases hc
      rw [rawBytes_encode_cons_of_not_keep hc, hdigit]
      cases hbytes : String.utf8EncodeChar c with
      | nil => exact absurd hbytes String.utf8EncodeChar_ne_nil
      | cons b bytes => rfl

theorem exists_of_firstDigit? {cs : List Char} {n : Nat}
    (h : firstDigit? (rawBytes cs) = some n) : ∃ c rest, cs = c :: rest ∧ isHexDigit c = true := by
  cases cs with
  | nil => cases h
  | cons c cs =>
    rw [firstDigit?_rawBytes_cons] at h
    exact ⟨c, cs, rfl, by rw [isHexDigit, h]; rfl⟩

/-- Encoding makes no triple and breaks none. -/
theorem triple?_rawBytes_encode (hkeep : IsTransparent keep) (cs : List Char) :
    triple? (rawBytes (Percent.encode keep cs)) = triple? (rawBytes cs) := by
  rw [triple?_eq, triple?_eq, firstDigit?_rawBytes_encode hkeep]
  cases hfirst : firstDigit? (rawBytes cs) with
  | none => rfl
  | some n =>
    obtain ⟨c, rest, rfl, hdigit⟩ := exists_of_firstDigit? hfirst
    have hc := lt_of_isHexDigit hdigit
    rw [encode_cons_of_keep (hkeep.digit c hdigit), rawBytes_cons_of_ascii hc,
      rawBytes_cons_of_ascii hc, List.tail_cons, List.tail_cons, firstDigit?_rawBytes_encode hkeep]

/-- A triple consists of digits. -/
theorem isHexDigit_of_triple? {cs : List Char} {value : UInt8}
    (h : triple? (rawBytes cs) = some value) : ∀ c ∈ cs.take 2, isHexDigit c = true := by
  rw [triple?_eq] at h
  obtain ⟨high, hhigh, h⟩ := Option.bind_eq_some_iff.mp h
  obtain ⟨low, hlow, -⟩ := Option.bind_eq_some_iff.mp h
  obtain ⟨c, rest, rfl, hc⟩ := exists_of_firstDigit? hhigh
  rw [rawBytes_cons_of_ascii (lt_of_isHexDigit hc), List.tail_cons] at hlow
  obtain ⟨d, rest, rfl, hd⟩ := exists_of_firstDigit? hlow
  simp [hc, hd]

/-- Reading triples gives the same bytes for a text and for what is written of it, also in the
middle of a triple. -/
theorem decodeFrom_rawBytes_encode (hkeep : IsTransparent keep) (taken : Nat) (cs : List Char)
    (htaken : ∀ c ∈ cs.take taken, isHexDigit c = true) :
    Percent.decodeFrom taken (rawBytes (Percent.encode keep cs)) =
      Percent.decodeFrom taken (rawBytes cs) := by
  induction cs generalizing taken with
  | nil => rfl
  | cons c cs ih =>
    cases taken with
    | succ taken =>
      -- the character belongs to a triple, so it is a digit and stands on both sides
      have hdigit : isHexDigit c = true := htaken c (by simp)
      have hc := lt_of_isHexDigit hdigit
      rw [encode_cons_of_keep (hkeep.digit c hdigit), rawBytes_cons_of_ascii hc,
        rawBytes_cons_of_ascii hc]
      exact ih taken fun d hd => htaken d (by simp [hd])
    | zero =>
      have hrest : Percent.decode (rawBytes (Percent.encode keep cs)) =
          Percent.decode (rawBytes cs) := ih 0 (by simp)
      change Percent.decode _ = Percent.decode _
      cases hc : keep c with
      | false =>
        have hpercent : c ≠ '%' := by
          rintro rfl
          rw [hkeep.mark '%' (by decide)] at hc
          cases hc
        rw [rawBytes_encode_cons_of_not_keep hc, rawBytes_cons_of_not_keep hkeep hc,
          decode_flatMap_encodeByte, hrest,
          decode_append_of_not_mem (percent_not_mem_utf8EncodeChar hpercent)]
      | true =>
        have hascii := hkeep.ascii c hc
        rw [encode_cons_of_keep hc, rawBytes_cons_of_ascii hascii, rawBytes_cons_of_ascii hascii]
        by_cases hpercent : c = '%'
        · subst hpercent
          change Percent.decodeFrom 0 (0x25 :: _) = Percent.decodeFrom 0 (0x25 :: _)
          rw [Percent.decodeFrom, Percent.decodeFrom, if_pos rfl, if_pos rfl,
            triple?_rawBytes_encode hkeep]
          cases htriple : triple? (rawBytes cs) with
          | none => exact congrArg _ hrest
          | some value => exact congrArg _ (ih 2 (isHexDigit_of_triple? htriple))
        · have hbyte : UInt8.ofNat (spaced c).toNat ≠ 0x25 := by
            intro hbyte
            refine percent_not_mem_utf8EncodeChar (spaced_ne_percent hpercent) ?_
            rw [utf8EncodeChar_of_ascii (toNat_spaced_lt hascii), hbyte]
            exact List.mem_singleton_self _
          rw [decode_cons_of_ne _ _ hbyte, decode_cons_of_ne _ _ hbyte, hrest]

/-- A component is decoded to the same text after it has been encoded. -/
theorem decodeComponent_encode (hkeep : IsTransparent keep) (cs : List Char) :
    decodeComponent (Percent.encode keep cs) = decodeComponent cs := by
  rw [decodeComponent_eq, decodeComponent_eq]
  exact congrArg _ (congrArg _ (decodeFrom_rawBytes_encode hkeep 0 cs (by simp)))

/-! ## Separators -/

/-- A separator of forms comes into the text only where it stood. -/
theorem ne_of_mem_encodeChar {stop d : Char} (hstop : stop ∈ ['&', '=']) (hc : c ≠ stop)
    (hd : d ∈ encodeChar keep c) : decide (d = stop) = false := by
  refine decide_eq_false ?_
  rintro rfl
  have hwritten : ∀ stop ∈ ['&', '='], stop ≠ '%' ∧ isHexDigit stop = false := by
    simp [isHexDigit, hexValue?]
  rcases mem_encodeChar hd with ⟨heq, -⟩ | hsign | hdigit
  · exact hc heq.symm
  · exact (hwritten d hstop).1 hsign
  · rw [(hwritten d hstop).2] at hdigit
    cases hdigit

theorem IsTransparent.separator (hkeep : IsTransparent keep) {stop : Char}
    (hstop : stop ∈ ['&', '=']) : keep stop = true := by
  have hmark : ∀ stop ∈ ['&', '='], stop ∈ ['%', '+', '&', '='] := by simp
  exact hkeep.mark stop (hmark stop hstop)

/-- A form is cut in the same places after it has been encoded. -/
theorem pieces_encode (hkeep : IsTransparent keep) {stop : Char} (hstop : stop ∈ ['&', '='])
    (cs : List Char) : pieces (· = stop) (Percent.encode keep cs) =
      (pieces (· = stop) cs).map (Percent.encode keep) := by
  induction cs with
  | nil => rfl
  | cons c cs ih =>
    by_cases hc : c = stop
    · rw [encode_cons_of_keep (hkeep.separator (hc ▸ hstop)),
        pieces_cons_of_sep (by simpa using hc), pieces_cons_of_sep (by simpa using hc), ih]
      rfl
    · change pieces (· = stop) (encodeChar keep c ++ Percent.encode keep cs) = _
      rw [pieces_append_of_forall_not fun d hd => ne_of_mem_encodeChar hstop hc hd, ih,
        pieces_cons_of_not (by simpa using hc)]
      cases hpieces : pieces (· = stop) cs with
      | nil => exact absurd hpieces (pieces_ne_nil _ _)
      | cons piece rest => rfl

theorem cutAt_append_of_forall_not {sep : Char → Bool} {front : List Char}
    (h : ∀ d ∈ front, sep d = false) (cs : List Char) :
    cutAt sep (front ++ cs) = (cutAt sep cs).map (front ++ ·) id := by
  induction front with
  | nil => rfl
  | cons d front ih =>
    rw [List.cons_append, cutAt, if_neg (by simp [h d]), ih fun e he => h e (by simp [he])]
    rfl

theorem cutAt_encode (hkeep : IsTransparent keep) {stop : Char} (hstop : stop ∈ ['&', '='])
    (cs : List Char) : cutAt (· = stop) (Percent.encode keep cs) =
      (cutAt (· = stop) cs).map (Percent.encode keep) (Option.map (Percent.encode keep)) := by
  induction cs with
  | nil => rfl
  | cons c cs ih =>
    by_cases hc : c = stop
    · rw [encode_cons_of_keep (hkeep.separator (hc ▸ hstop)), cutAt, cutAt,
        if_pos (by simpa using hc), if_pos (by simpa using hc)]
      rfl
    · change cutAt (· = stop) (encodeChar keep c ++ Percent.encode keep cs) = _
      rw [cutAt_append_of_forall_not fun d hd => ne_of_mem_encodeChar hstop hc hd, ih, cutAt,
        if_neg (by simpa using hc)]
      rfl

theorem decodePair_encode (hkeep : IsTransparent keep) (piece : List Char) :
    decodePair (Percent.encode keep piece) = decodePair piece := by
  have hvalue (value : Option (List Char)) :
      decodeComponent ((value.map (Percent.encode keep)).getD []) =
        decodeComponent (value.getD []) := by
    cases value with
    | none => rfl
    | some cs => exact decodeComponent_encode hkeep cs
  unfold decodePair
  rw [cutAt_encode hkeep (by decide)]
  exact Prod.ext (decodeComponent_encode hkeep _) (hvalue _)

theorem isEmpty_encode (piece : List Char) :
    (Percent.encode keep piece).isEmpty = piece.isEmpty := by
  cases piece with
  | nil => rfl
  | cons c piece =>
    have hne : encodeChar keep c ≠ [] := by
      unfold encodeChar
      split_ifs
      · simp
      · cases hbytes : String.utf8EncodeChar c with
        | nil => exact absurd hbytes String.utf8EncodeChar_ne_nil
        | cons b bytes => simp [encodeByte]
    simp [Percent.encode, hne]

/-- A form has the same pairs before and after it is encoded. -/
theorem pairs_encode (hkeep : IsTransparent keep) (cs : List Char) :
    pairs (String.ofList (Percent.encode keep cs)) = pairs (String.ofList cs) := by
  have hfilter : (fun piece : List Char => !piece.isEmpty) ∘ Percent.encode keep =
      fun piece => !piece.isEmpty :=
    funext fun piece => by rw [Function.comp_apply, isEmpty_encode]
  unfold pairs
  rw [String.toList_ofList, String.toList_ofList, pieces_encode hkeep (by decide),
    List.filter_map, hfilter, List.map_map]
  exact List.map_congr_left fun piece _ => decodePair_encode hkeep piece

end Routing.Form

/-! ## Queries -/

namespace Routing.Url.Query

/-- A query is encoded so that the fields in it stay as they are. -/
theorem isTransparent_isPlain (kind : SchemeKind) : Form.IsTransparent (isPlain kind) where
  ascii c hc := by
    simp only [isPlain, Bool.and_eq_true, decide_eq_true_eq] at hc
    omega
  mark c hc := by
    have hmark : ∀ c ∈ ['%', '+', '&', '='], isPlain kind c = true := by simp [isPlain]
    exact hmark c hc
  digit c hc := by
    refine Text.forall_ascii (P := fun c => Text.Percent.isHexDigit c = true →
      isPlain kind c = true) ?_ (Text.Percent.lt_of_isHexDigit hc) hc
    cases kind <;> decide +kernel

end Routing.Url.Query

namespace Routing.Target

open Url

/-- A text that is the whole query when it stands behind a question mark at the end of a target:
nothing is left out of it, and no fragment begins in it. -/
structure IsQueryText (text : String) : Prop where
  /-- No fragment begins in it. -/
  fragment : '#' ∉ text.toList
  /-- There are no tabs and no line ends in it. -/
  breaks : ∀ c ∈ text.toList, c ∉ ['\t', '\n', '\r']
  /-- It does not end in a control character or a blank. -/
  last : ∀ c, text.toList.getLast? = some c → 0x20 < c.toNat

/-- A path of letters with a query behind it. -/
theorem ofText_append_query {path text : String} (hpath : path.toList.head? = some '/')
    (hletters : ∀ c ∈ path.toList, IsPathLetter c) (htext : IsQueryText text) :
    ofText (path ++ "?" ++ text) = .ok
      { path
        query := some (String.ofList (Text.Percent.encode (Query.isPlain .web) text.toList)) } := by
  obtain ⟨rest, hrest⟩ := List.head?_eq_some_iff.mp hpath
  have hrestLetters : ∀ c ∈ rest, IsPathLetter c := fun c hc => hletters c (by simp [hrest, hc])
  have htarget : (path ++ "?" ++ text).toList = '/' :: (rest ++ '?' :: text.toList) := by
    rw [String.toList_append, String.toList_append, hrest]
    simp
  have hclean : cleanRest (rest ++ '?' :: text.toList) = rest ++ '?' :: text.toList := by
    refine cleanRest_eq_self (fun c hc => ?_) fun c hc => ?_
    · rw [List.getLast?_append_of_ne_nil _ (by simp)] at hc
      cases hchars : text.toList with
      | nil =>
        rw [hchars] at hc
        rw [← Option.some.inj hc]
        decide
      | cons d chars =>
        rw [hchars, List.getLast?_cons_cons] at hc
        exact htext.last c (hchars ▸ hc)
    · rcases List.mem_append.mp hc with hc | hc
      · exact (hrestLetters c hc).not_mem_breaks
      · rcases List.mem_cons.mp hc with rfl | hc
        · decide
        · exact htext.breaks c hc
  have hends : ∀ c ∈ rest, (!endsPath c) = true := fun c hc => by
    simp [(hrestLetters c hc).facts.2.1]
  have hquery : text.toList.takeWhile (· ≠ '#') = text.toList :=
    List.takeWhile_eq_self_iff.mpr fun c hc => by
      simpa using fun heq : c = '#' => htext.fragment (heq ▸ hc)
  rw [ofText_of_slash htarget, hclean, ofPathText, takeWhile_append_cons hends (by decide),
    dropWhile_append_cons hends (by decide), render_segments_of_letters hrestLetters, ← hrest,
    String.ofList_toList, Query.ofText?]
  simp only [hquery]
  rfl

/-- The query behind a path of letters has the pairs that are written there. -/
theorem exists_query_of_append {path text : String} (hpath : path.toList.head? = some '/')
    (hletters : ∀ c ∈ path.toList, IsPathLetter c) (htext : IsQueryText text) :
    ∃ query, ofText (path ++ "?" ++ text) = .ok { path, query := some query } ∧
      Form.pairs query = Form.pairs text := by
  have hpairs := Form.pairs_encode (Query.isTransparent_isPlain .web) text.toList
  rw [String.ofList_toList] at hpairs
  exact ⟨_, ofText_append_query hpath hletters htext, hpairs⟩

end Routing.Target

/-! ## Requests -/

namespace Routing.RawRequest

open Target

/-- The same fields may be sent in the query or in the body: encoding the query does not change what
is read of them, so the request has the same parameters if it is built either way. Only the body may
name the method that counts; where it does not, the outcome is the same altogether. -/
theorem toRequest_fields (q : String) (hq : IsQueryText q) :
    (∃ query, Target.ofText ("/p?" ++ q) = .ok { path := "/p", query := some query } ∧
      Form.pairs query = Form.pairs q) ∧
    ∀ method : String,
      let inQuery : RawRequest := { method, target := "/p?" ++ q, form := none }
      let inBody : RawRequest := { method, target := "/p", form := some q }
      ((∃ request, inQuery.toRequest = .ok request) ↔
        ¬ ∀ c ∈ method.toList, Text.isBlank c = true) ∧
      ((∃ request, inBody.toRequest = .ok request) ↔
        ∃ counted, inBody.Names counted ∧ ¬ ∀ c ∈ counted.toList, Text.isBlank c = true) ∧
      (∀ fromQuery fromBody, inQuery.toRequest = .ok fromQuery → inBody.toRequest = .ok fromBody →
        fromQuery.path = fromBody.path ∧ fromQuery.params = fromBody.params) ∧
      ((∀ pair ∈ Form.pairs q, pair.1 ≠ methodField) → inQuery.toRequest = inBody.toRequest) := by
  have hroot : "/p".toList.head? = some '/' := by decide
  have hletters : ∀ c ∈ "/p".toList, Url.IsPathLetter c := by simp [Url.IsPathLetter]
  have happend : "/p" ++ "?" = "/p?" := by decide
  obtain ⟨query, hquery, hpairs⟩ := exists_query_of_append hroot hletters hq
  rw [happend] at hquery
  have hbody : Target.ofText "/p" = .ok { path := "/p", query := none } :=
    ofText_of_letters hroot hletters
  refine ⟨⟨query, hquery, hpairs⟩, fun method => ?_⟩
  intro inQuery inBody
  have hwrittenQuery : inQuery.writtenPairs { path := "/p", query := some query } =
      Form.pairs query := List.append_nil _
  have hwrittenBody : inBody.writtenPairs { path := "/p", query := none } = Form.pairs q :=
    List.nil_append _
  refine ⟨?_, ?_, ?_, ?_⟩
  · rw [inQuery.exists_toRequest_iff hquery, ← Text.trim_eq_empty_iff]
    rfl
  · rw [inBody.exists_toRequest_iff hbody]
    simp only [names_iff, exists_eq_left, ← Text.trim_eq_empty_iff, ne_eq]
  · intro fromQuery fromBody hfromQuery hfromBody
    obtain ⟨hpath, hparams⟩ := inQuery.params_of_toRequest hquery hfromQuery
    obtain ⟨hpath', hparams'⟩ := inBody.params_of_toRequest hbody hfromBody
    exact ⟨hpath.trans hpath'.symm, by
      rw [hparams, hparams', hwrittenQuery, hwrittenBody, hpairs]⟩
  · intro hnone
    have hmethod : inBody.effectiveMethod = inQuery.effectiveMethod :=
      ((names_iff inBody method).mp (.transport hnone)).symm
    rw [inQuery.toRequest_of_ok hquery, inBody.toRequest_of_ok hbody, hmethod,
      hwrittenQuery, hwrittenBody, hpairs]

/-- An incomplete triple in front of a character that is encoded, an encoded letter, a plus sign and
an empty piece. -/
theorem toRequest_fields_incomplete :
    let q := "a=%2\"%zz&b=é+1&&c='"
    let inQuery : RawRequest := { method := "POST", target := "/p?" ++ q, form := none }
    let inBody : RawRequest := { method := "POST", target := "/p", form := some q }
    IsQueryText q ∧
      (∃ query, Target.ofText ("/p?" ++ q) = .ok { path := "/p", query := some query } ∧
        Form.pairs query = [("a", "%2\"%zz"), ("b", "é 1"), ("c", "'")]) ∧
      inQuery.toRequest = inBody.toRequest ∧
      ∃ fromQuery fromBody, inQuery.toRequest = .ok fromQuery ∧ inBody.toRequest = .ok fromBody ∧
        fromQuery.params = fromBody.params := by
  intro q inQuery inBody
  have hq : IsQueryText q := ⟨by decide, by simp [q], by simp [q]⟩
  have hread : Form.pairs q = [("a", "%2\"%zz"), ("b", "é 1"), ("c", "'")] := by decide +kernel
  obtain ⟨⟨query, htarget, hpairs⟩, hrequests⟩ := toRequest_fields q hq
  obtain ⟨hbuiltQuery, hbuiltBody, hparams, hsame⟩ := hrequests "POST"
  have hblank : ¬ ∀ c ∈ "POST".toList, Text.isBlank c = true := by simp [Text.isBlank]
  obtain ⟨fromQuery, hfromQuery⟩ := hbuiltQuery.mpr hblank
  obtain ⟨fromBody, hfromBody⟩ := hbuiltBody.mpr
    ⟨"POST", .transport (by change ∀ pair ∈ Form.pairs q, _; rw [hread]; decide), hblank⟩
  refine ⟨hq, ⟨query, htarget, hpairs.trans hread⟩, hsame (by rw [hread]; decide), fromQuery,
    fromBody, hfromQuery, hfromBody, (hparams fromQuery fromBody hfromQuery hfromBody).2⟩

/-- A field that names a blank method is a parameter like any other in the query; in the body it is
a reason to refuse the request. -/
theorem toRequest_fields_blank :
    let q := "_method="
    let inQuery : RawRequest := { method := "GET", target := "/p?" ++ q, form := none }
    let inBody : RawRequest := { method := "GET", target := "/p", form := some q }
    IsQueryText q ∧ inQuery.toRequest.map Request.params = .ok [("_method", "")] ∧
      inBody.toRequest = .error (.invalidRequest .blankMethod) ∧
      inQuery.toRequest.map Request.params ≠ inBody.toRequest.map Request.params := by
  intro q inQuery inBody
  have hq : IsQueryText q := ⟨by decide, by simp [q], by simp [q]⟩
  have hquery : inQuery.toRequest.map Request.params = .ok [("_method", "")] := by decide +kernel
  have hbody : inBody.toRequest = .error (.invalidRequest .blankMethod) := by decide +kernel
  refine ⟨hq, hquery, hbody, ?_⟩
  rw [hquery, hbody]
  simp [Except.map]

end Routing.RawRequest
