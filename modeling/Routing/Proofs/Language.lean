import Mathlib.Computability.Language
import Routing.Proofs.Nesting
import Routing.Proofs.Sequence

/-!
# Proofs: languages

Which texts an expression accepts is told by its language: the words that it may consume. Preferences
and groups do not matter for it. A reading speaks a language if, from every position of a text, it
ends behind the words of the language that the text goes on with, and nowhere else. Readings that are
put together speak what is put together from their languages.
-/

namespace Routing.Regex

open scoped Computability

namespace Thread

variable {t u e : Thread} {ts : List Thread} {text cs : List Char}

/-- In a text, what is ahead of a thread depends on its offset alone. -/
theorem In.rest_congr (ht : t.In text) (hu : u.In text) (h : t.offset = u.offset) :
    t.rest = u.rest := by
  rw [ht.rest_eq, hu.rest_eq, h]

theorem In.offset_congr (ht : t.In text) (hu : u.In text) (h : t.rest = u.rest) :
    t.offset = u.offset := by
  have hlength := ht.offset_add_length.trans hu.offset_add_length.symm
  rw [h] at hlength
  exact Nat.add_right_cancel hlength

/-- Repeated offsets are dropped together with what is ahead of them. -/
theorem exists_mem_distinct_iff (hts : ∀ t ∈ ts, t.In text) :
    (∃ e ∈ distinct ts, e.rest = cs) ↔ ∃ e ∈ ts, e.rest = cs := by
  constructor
  · rintro ⟨e, he, hrest⟩
    exact ⟨e, mem_of_mem_distinct he, hrest⟩
  · rintro ⟨e, he, hrest⟩
    obtain ⟨u, hu, hoffset⟩ := exists_mem_distinct he
    have hrest' := (hts u (mem_of_mem_distinct hu)).rest_congr (hts e he) hoffset
    exact ⟨u, hu, hrest'.trans hrest⟩

end Thread

/-! ## Languages of readings -/

/-- From every position of a text the reading ends behind the words of the language that the text
goes on with. -/
structure Reading.Speaks (r : Reading) (L : Language Char) : Prop where
  /-- It stays in the text. -/
  keeps : ∀ text, r.Keeps (·.In text)
  /-- What is left behind its ends is what is left behind the words. -/
  ends_iff : ∀ {text : List Char} {t : Thread}, t.In text → ∀ cs,
    (∃ e ∈ r t, e.rest = cs) ↔ ∃ w ∈ L, t.rest = w ++ cs

namespace Reading

variable {r s : Reading} {L M : Language Char} {t e : Thread} {text : List Char}

/-- An end stands behind a word. -/
theorem Speaks.exists_word (hr : r.Speaks L) (ht : t.In text) (he : e ∈ r t) :
    ∃ w ∈ L, t.rest = w ++ e.rest :=
  (hr.ends_iff ht e.rest).mp ⟨e, he, rfl⟩

/-- A reading that speaks a language does not go back. -/
theorem Speaks.length_rest_le (hr : r.Speaks L) (ht : t.In text) (he : e ∈ r t) :
    e.rest.length ≤ t.rest.length := by
  obtain ⟨w, -, hw⟩ := hr.exists_word ht he
  rw [hw, List.length_append]
  exact Nat.le_add_left _ _

theorem speaks_one : Speaks (fun t => [t]) 1 where
  keeps := by
    intro text t ht e he
    rw [List.mem_singleton.mp he]
    exact ht
  ends_iff := by
    intro text t _ cs
    simp [Language.mem_one]

/-- One reading after the other, with repeated offsets left in. -/
theorem Speaks.flatMap (hr : r.Speaks L) (hs : s.Speaks M) :
    Speaks (fun t => (r t).flatMap s) (L * M) where
  keeps := by
    intro text t ht e he
    obtain ⟨m, hm, he⟩ := List.mem_flatMap.mp he
    exact hs.keeps text m (hr.keeps text t ht m hm) e he
  ends_iff := by
    intro text t ht cs
    constructor
    · rintro ⟨e, he, rfl⟩
      obtain ⟨m, hm, he⟩ := List.mem_flatMap.mp he
      obtain ⟨v, hv, htv⟩ := hr.exists_word ht hm
      obtain ⟨w, hw, hmw⟩ := hs.exists_word (hr.keeps text t ht m hm) he
      exact ⟨v ++ w, Language.append_mem_mul hv hw, by rw [htv, hmw, List.append_assoc]⟩
    · rintro ⟨_, hvw, htv⟩
      obtain ⟨v, hv, w, hw, rfl⟩ := Language.mem_mul.mp hvw
      rw [List.append_assoc] at htv
      obtain ⟨m, hm, hmw⟩ := (hr.ends_iff ht _).mpr ⟨v, hv, htv⟩
      obtain ⟨e, he, hrest⟩ := (hs.ends_iff (hr.keeps text t ht m hm) cs).mpr ⟨w, hw, hmw⟩
      exact ⟨e, List.mem_flatMap.mpr ⟨m, hm, he⟩, hrest⟩

/-- Dropping repeated offsets changes nothing. -/
theorem Speaks.distinct (hr : r.Speaks L) : Speaks (fun t => Thread.distinct (r t)) L where
  keeps := fun text t ht e he => hr.keeps text t ht e (Thread.mem_of_mem_distinct he)
  ends_iff := by
    intro text t ht cs
    rw [Thread.exists_mem_distinct_iff (hr.keeps text t ht)]
    exact hr.ends_iff ht cs

/-- One reading after the other speaks the product. -/
theorem Speaks.seq (hr : r.Speaks L) (hs : s.Speaks M) : (seq r s).Speaks (L * M) :=
  (hr.flatMap hs).distinct

theorem Speaks.append (hr : r.Speaks L) (hs : s.Speaks M) :
    Speaks (fun t => r t ++ s t) (L + M) where
  keeps := fun text t ht e he =>
    (List.mem_append.mp he).elim (hr.keeps text t ht e) (hs.keeps text t ht e)
  ends_iff := by
    intro text t ht cs
    simp only [List.mem_append, or_and_right, exists_or, hr.ends_iff ht cs, hs.ends_iff ht cs,
      Language.mem_add]

/-- One reading or the other speaks the sum. -/
theorem Speaks.orElse (hr : r.Speaks L) (hs : s.Speaks M) : (orElse r s).Speaks (L + M) :=
  (hr.append hs).distinct

/-- Counted repetition speaks a power. -/
theorem Speaks.times (hr : r.Speaks L) (n : Nat) : (times r n).Speaks (L ^ n) := by
  induction n with
  | zero =>
    rw [pow_zero]
    exact speaks_one
  | succ n ih =>
    rw [pow_succ]
    exact ih.seq hr

end Reading

/-! ## Languages of expressions -/

/-- The words of at most `n` words of the language. -/
def atMost (L : Language Char) : Nat → Language Char
  | 0 => 1
  | n + 1 => 1 + L * atMost L n

namespace Node

/-- The words that the expression may consume, conditions left aside. -/
def language : Node → Language Char
  | empty => 1
  | set chars => {w | ∃ c, chars.contains c = true ∧ w = [c]}
  | look _ => 1
  | group _ _ body => language body
  | cat first second => language first * language second
  | alt first second => language first + language second
  | .repeat min none _ body => language body ^ min * (language body)∗
  | .repeat min (some max) _ body => language body ^ min * atMost (language body) (max - min)

/-- No condition on a position stands in the expression. -/
def isFree : Node → Bool
  | empty => true
  | set _ => true
  | look _ => false
  | group _ _ body => isFree body
  | cat first second => isFree first && isFree second
  | alt first second => isFree first && isFree second
  | .repeat _ _ _ body => isFree body

/-- The numbers of groups have no part in the language. -/
theorem language_shift (n : Nat) (node : Node) : (node.shift n).language = node.language := by
  induction node with
  | empty | set | look => rfl
  | group _ _ _ ih => exact ih
  | cat _ _ ih₁ ih₂ | alt _ _ ih₁ ih₂ => simp only [shift, language, ih₁, ih₂]
  | «repeat» _ max _ _ ih => cases max <;> simp only [shift, language, ih]

theorem isFree_shift (n : Nat) (node : Node) : (node.shift n).isFree = node.isFree := by
  induction node with
  | empty | set | look => rfl
  | group _ _ _ ih | «repeat» _ _ _ _ ih => exact ih
  | cat _ _ ih₁ ih₂ | alt _ _ ih₁ ih₂ => simp only [shift, isFree, ih₁, ih₂]

theorem language_char (c : Char) : (char c).language = {[c]} := by
  ext w
  simp only [language, CharSet.contains_single, decide_eq_true_eq, exists_eq_left]
  rfl

/-- Literal text has itself as its only word. -/
theorem language_chars (text : List Char) :
    ((text.map char).map language).prod = {text} := by
  induction text with
  | nil => rfl
  | cons c text ih =>
    rw [List.map_cons, List.map_cons, List.prod_cons, ih, language_char, Language.mul_def]
    exact Set.image2_singleton

/-- A set of characters speaks the words of one character in it. -/
theorem speaks_set (chars : CharSet) : Reading.Speaks (ends (set chars)) (set chars).language where
  keeps := fun text t ht e he => in_of_mem_ends ht he
  ends_iff := by
    intro text t _ cs
    constructor
    · rintro ⟨e, he, rfl⟩
      obtain ⟨c, rest, hrest, hc, rfl⟩ :=
        Thread.consume?_eq_some (Option.mem_toList.mp he)
      exact ⟨[c], ⟨c, hc, rfl⟩, hrest⟩
    · rintro ⟨_, ⟨c, hc, rfl⟩, hrest⟩
      refine ⟨{ t with offset := t.offset + 1, before := some c, rest := cs }, ?_, rfl⟩
      simp [ends, Thread.consume?, hrest, hc]

theorem speaks_group {body : Node} {L : Language Char} (h : Reading.Speaks (ends body) L)
    (index : Nat) (name : Option String) : Reading.Speaks (ends (group index name body)) L where
  keeps := fun text t ht e he => in_of_mem_ends ht he
  ends_iff := by
    intro text t ht cs
    rw [← h.ends_iff ht cs]
    simp only [ends, List.mem_map, exists_exists_and_eq_and]
    rfl

end Node

end Routing.Regex
