import Mathlib.Tactic.Common
import Routing.Unicode.Name

/-!
# Proofs: names of properties

The names of categories, scripts and binary properties consist of lower-case letters and digits.
Loose comparison drops nothing of ASCII but blanks, hyphens and underscores, so a text with other
punctuation names no property.
-/

namespace Routing.Unicode

/-- Whether the byte is that of a lower-case letter or a digit. -/
def isNameByte (b : UInt8) : Bool :=
  (97 ≤ b && b ≤ 122) || (48 ≤ b && b ≤ 57)

/-- Whether all names of the tables consist of lower-case letters and digits. -/
def areNames (names : List (RangeTable × List String)) : Bool :=
  names.all fun entry => entry.2.all fun name => name.toByteArray.data.toList.all isNameByte

-- bytes are compared and not characters, because the kernel decodes texts slowly
/-- The names of binary properties are made of name bytes, as are those in the tables that follow. -/
theorem areNames_property : areNames Property.names = true := by decide +kernel

theorem areNames_category : areNames Category.names = true := by decide +kernel

theorem areNames_script : areNames Script.names = true := by decide +kernel

theorem areNames_scriptExtension : areNames ScriptExtension.names = true := by decide +kernel

/-- Whether the character is a punctuation mark that cannot stand in what names a property. -/
def isForeign (c : Char) : Bool :=
  c.toNat < 0x80 && !c.isAlphanum && c ∉ [' ', '_', '-', '=', ':', '!']

variable {c : Char} {text : List Char} {name : String} {names : List (RangeTable × List String)}

/-- A foreign character shows in the bytes of a name. -/
theorem mem_bytes_of_isForeign (hc : c ∈ name.toList) (hforeign : isForeign c = true) :
    ∃ b ∈ name.toByteArray.data.toList, isNameByte b = false := by
  have hbytes : name.toByteArray.data.toList = name.toList.flatMap String.utf8EncodeChar := by
    conv_lhs => rw [← String.ofList_toList (s := name)]
    rw [String.toByteArray_ofList, List.utf8Encode, List.data_toByteArray]
  simp only [isForeign, Bool.and_eq_true, decide_eq_true_eq, Bool.not_eq_true'] at hforeign
  obtain ⟨⟨hascii, halphanum⟩, -⟩ := hforeign
  have hencode : String.utf8EncodeChar c = [UInt8.ofNat c.toNat] := by
    unfold String.utf8EncodeChar
    exact if_pos (Nat.le_of_lt_succ hascii)
  refine ⟨UInt8.ofNat c.toNat, ?_, ?_⟩
  · rw [hbytes, List.mem_flatMap]
    exact ⟨c, hc, by rw [hencode]; exact List.mem_singleton_self _⟩
  · have hbyte : (UInt8.ofNat c.toNat).toNat = c.toNat := by
      rw [UInt8.toNat_ofNat']
      omega
    by_contra hname
    simp only [Bool.not_eq_false, isNameByte, Bool.or_eq_true, Bool.and_eq_true,
      decide_eq_true_eq, UInt8.le_iff_toNat_le, hbyte] at hname
    have hletter : c.isAlphanum = true := by
      rw [Text.isAlphanum_iff, Text.isLower_iff]
      rcases hname with hlower | ⟨h₁, h₂⟩
      · exact Or.inr (Or.inl hlower)
      · refine Or.inr (Or.inr ?_)
        simp only [Char.isDigit, Bool.and_eq_true, decide_eq_true_eq, ge_iff_le,
          UInt32.le_iff_toNat_le]
        exact ⟨h₁, h₂⟩
    rw [hletter] at halphanum
    exact absurd halphanum (by decide)

/-- A table of names has no entry for a name with a foreign character. -/
theorem find?_eq_none_of_isForeign (hnames : areNames names = true) (hc : c ∈ name.toList)
    (hforeign : isForeign c = true) :
    (names.find? fun entry => entry.2.contains name) = none := by
  rw [List.find?_eq_none]
  intro entry hentry hcontains
  obtain ⟨b, hb, hname⟩ := mem_bytes_of_isForeign hc hforeign
  have hentry := List.all_eq_true.mp hnames entry hentry
  have hall := List.all_eq_true.mp hentry name (by simpa using hcontains)
  rw [List.all_eq_true.mp hall b hb] at hname
  exact absurd hname (by decide)

theorem toLower_of_isForeign (hforeign : isForeign c = true) : c.toLower = c := by
  have hupper : ¬ c.isUpper = true := by
    simp only [isForeign, Bool.and_eq_true, Bool.not_eq_true'] at hforeign
    intro hletter
    rw [(Text.isAlphanum_iff c).mpr (Or.inl hletter)] at hforeign
    exact absurd hforeign.1.2 (by decide)
  unfold Char.toLower
  exact dif_neg fun hrange => hupper (decide_eq_true hrange)

/-- Loose matching drops no foreign character. -/
theorem mem_looseName (hc : c ∈ text) (hforeign : isForeign c = true) :
    c ∈ (looseName text).toList := by
  have hne : ∀ d : Char, d.isAlphanum = true → c ≠ d := by
    rintro d hd rfl
    simp [isForeign, hd] at hforeign
  have hkept : ∀ body : List Char, c ∈ body →
      c ∈ body.filter fun c => c.toNat < 0x80 && c ≠ ' ' && c ≠ '_' && c ≠ '-' := by
    intro body hbody
    simp only [isForeign, Bool.and_eq_true, decide_eq_true_eq, List.mem_cons, not_or] at hforeign
    simp [hbody, hforeign.1.1, hforeign.2]
  have hlower : c ∈ text.map Char.toLower :=
    List.mem_map.mpr ⟨c, hc, toLower_of_isForeign hforeign⟩
  have hfinish : ∀ (hadIs : Bool) (kept : List Char), c ∈ kept →
      c ∈ (if (hadIs && kept = ['c']) = true then "isc" else String.ofList kept).toList := by
    intro hadIs kept hmem
    have hsingle : kept ≠ ['c'] := by
      rintro rfl
      exact hne 'c' (by decide) (List.mem_singleton.mp hmem)
    simpa [hsingle] using hmem
  unfold looseName
  dsimp only
  split
  · -- what follows a leading `is` holds the mark as well
    rename_i body hbody
    rw [hbody] at hlower
    have hmem : c ∈ body := by
      simpa [hne 'i' (by decide), hne 's' (by decide)] using hlower
    exact hfinish true _ (hkept body hmem)
  · exact hfinish false _ (hkept _ hlower)

/-- A name with a foreign character is none of the names that are written out. -/
theorem ne_of_isForeign {literal : String} (hc : c ∈ name.toList) (hforeign : isForeign c = true)
    (hliteral : literal.toList.all (!isForeign ·) = true) : name ≠ literal := by
  rintro rfl
  have hquiet := List.all_eq_true.mp hliteral c hc
  rw [hforeign] at hquiet
  exact absurd hquiet (by decide)

theorem category_named?_eq_none (hc : c ∈ name.toList) (hforeign : isForeign c = true) :
    Category.named? name = none := by
  unfold Category.named?
  split
  · exact absurd rfl (ne_of_isForeign hc hforeign (by decide +kernel))
  · exact absurd rfl (ne_of_isForeign hc hforeign (by decide +kernel))
  · exact absurd rfl (ne_of_isForeign hc hforeign (by decide +kernel))
  · rw [find?_eq_none_of_isForeign areNames_category hc hforeign, Option.map_none]

theorem script_named?_eq_none (hc : c ∈ name.toList) (hforeign : isForeign c = true) :
    Script.named? name = none := by
  rw [Script.named?, find?_eq_none_of_isForeign areNames_script hc hforeign, Option.map_none]

theorem scriptExtension_named?_eq_none (hc : c ∈ name.toList) (hforeign : isForeign c = true) :
    ScriptExtension.named? name = none := by
  rw [ScriptExtension.named?, find?_eq_none_of_isForeign areNames_scriptExtension hc hforeign]
  exact script_named?_eq_none hc hforeign

/-- No set of characters has a name with a foreign character. -/
theorem named?_eq_none (hc : c ∈ name.toList) (hforeign : isForeign c = true) :
    named? name = none := by
  unfold named? Property.named?
  rw [find?_eq_none_of_isForeign areNames_property hc hforeign,
    category_named?_eq_none hc hforeign, script_named?_eq_none hc hforeign]
  split_ifs <;> rfl

/-- No property with a value has a foreign character in either part. -/
theorem valued?_eq_none {property : String} (hc : c ∈ property.toList ∨ c ∈ name.toList)
    (hforeign : isForeign c = true) : valued? property name = none := by
  unfold valued?
  rcases hc with hc | hc
  · have hproperty : ∀ literals : List String,
        literals.all (fun literal => literal.toList.all (!isForeign ·)) = true →
          property ∉ literals := by
      intro literals hliterals hmem
      exact ne_of_isForeign hc hforeign (List.all_eq_true.mp hliterals property hmem) rfl
    rw [if_neg (hproperty _ (by decide +kernel)), if_neg (hproperty _ (by decide +kernel)),
      if_neg (hproperty _ (by decide +kernel))]
  · rw [category_named?_eq_none hc hforeign, script_named?_eq_none hc hforeign,
      scriptExtension_named?_eq_none hc hforeign]
    split_ifs <;> rfl

theorem valued?_looseName_eq_none {property value : List Char} (hc : c ∈ property ∨ c ∈ value)
    (hforeign : isForeign c = true) : valued? (looseName property) (looseName value) = none := by
  refine valued?_eq_none (c := c) ?_ hforeign
  exact hc.imp (mem_looseName · hforeign) (mem_looseName · hforeign)

/-- A mark other than the separator is in one of the two parts of a cut. -/
theorem mem_of_cutAt {sep : Char → Bool} {before after : List Char} (hc : c ∈ text)
    (hsep : sep c = false) (hcut : Text.cutAt sep text = (before, some after)) :
    c ∈ before ∨ c ∈ after := by
  have hspec := Text.cutAt_spec sep text
  rw [hcut] at hspec
  obtain ⟨d, hd, htext⟩ := hspec
  rw [htext, List.mem_append, List.mem_cons] at hc
  rcases hc with h | rfl | h
  · exact Or.inl h
  · rw [hsep] at hd
    exact absurd hd (by decide)
  · exact Or.inr h

/-- A text with such a mark names no property. -/
theorem property?_eq_none (hc : c ∈ text) (hforeign : isForeign c = true) :
    property? text = none := by
  have hne : ∀ d : Char, isForeign d = false → c ≠ d := by
    rintro d hd rfl
    rw [hforeign] at hd
    exact absurd hd (by decide)
  unfold property?
  split
  · rename_i property value hcut
    have hparts := mem_of_cutAt hc (by simpa using hne ':' (by decide)) hcut
    rw [valued?_looseName_eq_none hparts hforeign, Option.map_none]
  · split
    · rw [named?_eq_none (mem_looseName hc hforeign) hforeign, Option.map_none]
    · rename_i property value hcut
      have hparts := mem_of_cutAt hc (by simpa using hne '=' (by decide)) hcut
      split
      · rename_i hlast
        have hdrop : c ∈ property.dropLast ∨ c ∈ value := by
          rcases hparts with h | h
          · obtain ⟨front, hfront⟩ := List.getLast?_eq_some_iff.mp hlast
            rw [hfront, List.mem_append, List.mem_singleton] at h
            rw [hfront, List.dropLast_concat]
            exact Or.inl (h.resolve_right (hne '!' (by decide)))
          · exact Or.inr h
        rw [valued?_looseName_eq_none hdrop hforeign, Option.map_none]
      · rw [valued?_looseName_eq_none hparts hforeign, Option.map_none]

end Routing.Unicode
