import Mathlib.Data.List.DropRight
import Mathlib.Tactic.Common
import Routing.Request

/-!
# Proofs: the normal form of requests

Methods are kept trimmed and in upper case, paths without slashes at their end. What has this form is
not changed by being brought into it again.
-/

namespace Routing

/-! ## Trimming and upper case -/

namespace Text

variable {p : Char → Bool} {cs : List Char} {c : Char}

theorem dropEndWhile_eq_rdropWhile (p : Char → Bool) (cs : List Char) :
    dropEndWhile p cs = cs.rdropWhile p := rfl

theorem dropEndWhile_eq_self (h : ∀ c, cs.getLast? = some c → p c = false) :
    dropEndWhile p cs = cs := by
  rw [dropEndWhile_eq_rdropWhile, List.rdropWhile_eq_self_iff]
  intro hne
  rw [h _ (List.getLast?_eq_getLast_of_ne_nil hne)]
  exact Bool.false_ne_true

/-- What remains of a text that is stripped does not begin with a character satisfying `p`. -/
theorem head?_stripWhile (h : (stripWhile p cs).head? = some c) : p c = false := by
  have hprefix : stripWhile p cs <+: cs.dropWhile p := List.rdropWhile_prefix p _
  obtain ⟨rest, hrest⟩ := hprefix
  have hhead : (cs.dropWhile p).head? = some c := by
    rw [← hrest, List.head?_append, h, Option.some_or]
  have hnot := List.head?_dropWhile_not p cs
  rw [hhead] at hnot
  simpa using hnot

/-- A text with nothing to strip at its ends stays as it is. -/
theorem stripWhile_eq_self (hhead : ∀ c, cs.head? = some c → p c = false)
    (hlast : ∀ c, cs.getLast? = some c → p c = false) : stripWhile p cs = cs := by
  have hdrop : cs.dropWhile p = cs := by
    cases cs with
    | nil => rfl
    | cons c cs => exact List.dropWhile_cons_of_neg (by simp [hhead c rfl])
  rw [stripWhile, hdrop]
  exact dropEndWhile_eq_self hlast

/-- Upper case takes the 26 letters 32 code points down and leaves all other characters. -/
theorem toNat_toUpper (c : Char) :
    c.toUpper.toNat = if 97 ≤ c.toNat ∧ c.toNat ≤ 122 then c.toNat - 32 else c.toNat := by
  have hrange : ('a'.val ≤ c.val ∧ c.val ≤ 'z'.val) ↔ 97 ≤ c.toNat ∧ c.toNat ≤ 122 := by
    rw [UInt32.le_iff_toNat_le, UInt32.le_iff_toNat_le]
    exact Iff.rfl
  unfold Char.toUpper
  by_cases h : 'a'.val ≤ c.val ∧ c.val ≤ 'z'.val
  · rw [dif_pos h, if_pos (hrange.mp h)]
    have hshift : ('A'.val - 'a'.val).toNat = 2 ^ 32 - 32 := by decide
    have hsum : (c.val + ('A'.val - 'a'.val)).toNat = (c.toNat + (2 ^ 32 - 32)) % 2 ^ 32 := by
      rw [UInt32.toNat_add, hshift, Char.toNat_val]
    obtain ⟨hle, hge⟩ := hrange.mp h
    change (c.val + ('A'.val - 'a'.val)).toNat = _
    omega
  · rw [dif_neg h, if_neg (mt hrange.mpr h)]

/-- Upper case makes no blank and removes none. -/
theorem isBlank_toUpper (c : Char) : isBlank c.toUpper = isBlank c := by
  unfold isBlank
  rw [toNat_toUpper]
  split_ifs with h
  · -- between 0x20 and 0x85 there are no blanks
    rw [Bool.eq_iff_iff]
    simp only [Bool.or_eq_true, Bool.and_eq_true, decide_eq_true_eq]
    omega
  · rfl

theorem toUpper_eq_self (h : ¬ c.isLower = true) : c.toUpper = c := by
  rw [isLower_iff] at h
  rw [← Char.toNat_inj, toNat_toUpper, if_neg h]

theorem isLower_toUpper (c : Char) : c.toUpper.isLower = false := by
  rw [← Bool.not_eq_true, isLower_iff, toNat_toUpper]
  split_ifs <;> omega

end Text

/-! ## Methods -/

namespace Method

/-- The text is a method in normal form. -/
structure IsNormal (method : String) : Prop where
  /-- It is not empty. -/
  ne_empty : method ≠ ""
  /-- It does not begin with a blank. -/
  head : ∀ c, method.toList.head? = some c → Text.isBlank c = false
  /-- It does not end with a blank. -/
  last : ∀ c, method.toList.getLast? = some c → Text.isBlank c = false
  /-- No ASCII letter in it is in lower case. -/
  upper : ∀ c ∈ method.toList, c.isLower = false

/-- Normalizing gives a normal form, unless there is nothing but blanks. -/
theorem isNormal_normalize {raw : String} (h : Text.trim raw ≠ "") : IsNormal (normalize raw) where
  ne_empty := by
    intro hempty
    refine h (String.toList_inj.mp ?_)
    have hlist := congrArg String.toList hempty
    simpa [normalize] using hlist
  head c hc := by
    rw [normalize, Text.toList_asciiUpper, List.head?_map, Option.map_eq_some_iff] at hc
    obtain ⟨d, hd, rfl⟩ := hc
    rw [Text.toList_trim] at hd
    rw [Text.isBlank_toUpper, Text.head?_stripWhile hd]
  last c hc := by
    rw [normalize, Text.toList_asciiUpper, List.getLast?_map, Option.map_eq_some_iff] at hc
    obtain ⟨d, hd, rfl⟩ := hc
    rw [Text.toList_trim] at hd
    rw [Text.isBlank_toUpper, Text.getLast?_dropEndWhile _ _ d hd]
  upper c hc := by
    rw [normalize, Text.toList_asciiUpper, List.mem_map] at hc
    obtain ⟨d, -, rfl⟩ := hc
    exact Text.isLower_toUpper d

namespace IsNormal

variable {method : String} (h : IsNormal method)
include h

theorem trim_eq : Text.trim method = method := by
  rw [Text.trim, Text.stripWhile_eq_self h.head h.last, String.ofList_toList]

theorem normalize_eq : normalize method = method := by
  have hmap : method.toList.map Char.toUpper = method.toList := by
    refine (List.map_congr_left fun c hc => ?_).trans (List.map_id _)
    exact Text.toUpper_eq_self (by simp [h.upper c hc])
  rw [normalize, h.trim_eq, Text.asciiUpper, hmap, String.ofList_toList]

end IsNormal

end Method

/-! ## Paths -/

namespace Request

/-- The path is the root, or it is not empty and does not end in a slash. -/
def IsNormalPath (path : String) : Prop :=
  path = "/" ∨ path ≠ "" ∧ path.toList.getLast? ≠ some '/'

variable {method path : String} {request : Request}

/-- Normalizing a path gives a normal form. -/
theorem isNormalPath_normalizePath (path : String) : IsNormalPath (normalizePath path) := by
  unfold normalizePath
  split
  · exact Or.inl rfl
  · rename_i hne
    refine Or.inr ⟨fun hempty => hne (String.ofList_eq_empty_iff.mp hempty), fun hlast => ?_⟩
    rw [String.toList_ofList] at hlast
    simpa using Text.getLast?_dropEndWhile _ _ _ hlast

theorem IsNormalPath.normalizePath_eq (h : IsNormalPath path) : normalizePath path = path := by
  rcases h with rfl | ⟨hne, hlast⟩
  · rfl
  · have hself : Text.dropEndWhile (· = '/') path.toList = path.toList := by
      refine Text.dropEndWhile_eq_self fun c hc => ?_
      have hslash : c ≠ '/' := by
        rintro rfl
        exact hlast hc
      simpa using hslash
    unfold normalizePath
    rw [hself]
    split
    · rename_i hnil
      exact absurd (String.toList_inj.mp hnil) hne
    · rename_i hlist
      rw [String.ofList_toList]

/-- Slashes at the end of a path do not matter. -/
theorem normalizePath_append_slashes (path : String) (n : Nat) :
    normalizePath (path ++ String.ofList (List.replicate n '/')) = normalizePath path := by
  have hdrop : Text.dropEndWhile (· = '/') (path.toList ++ List.replicate n '/') =
      Text.dropEndWhile (· = '/') path.toList := by
    induction n with
    | zero => simp
    | succ n ih =>
      rw [List.replicate_succ', ← List.append_assoc, Text.dropEndWhile_eq_rdropWhile,
        List.rdropWhile_concat_pos _ _ _ (by simp)]
      exact ih
  unfold normalizePath
  rw [String.toList_append, String.toList_ofList, hdrop]

/-! ## Requests -/

/-- The request is in normal form. -/
structure IsNormal (request : Request) : Prop where
  /-- The method is. -/
  method : Method.IsNormal request.method
  /-- The path is. -/
  path : IsNormalPath request.path

/-- A request is built from any method but a blank one, of the normal forms of its parts. -/
theorem ofParts_eq_ok : ofParts method path = .ok request ↔ Text.trim method ≠ "" ∧
    request = { method := Method.normalize method, path := normalizePath path, params := [] } := by
  unfold ofParts
  split_ifs with h
  · simp [h]
  · rw [Except.ok.injEq]
    exact ⟨fun heq => ⟨h, heq.symm⟩, fun heq => heq.2.symm⟩

theorem isNormal_of_ofParts (h : ofParts method path = .ok request) : request.IsNormal := by
  obtain ⟨hmethod, rfl⟩ := ofParts_eq_ok.mp h
  exact ⟨Method.isNormal_normalize hmethod, isNormalPath_normalizePath path⟩

/-- Building a request from the method and the path of a normal request gives them back. -/
theorem IsNormal.ofParts_eq (h : request.IsNormal) :
    ofParts request.method request.path = .ok { request with params := [] } := by
  rw [ofParts_eq_ok, h.method.trim_eq, h.method.normalize_eq, h.path.normalizePath_eq]
  exact ⟨h.method.ne_empty, rfl⟩

end Request

end Routing
