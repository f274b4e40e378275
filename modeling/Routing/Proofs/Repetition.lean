import Routing.Proofs.Language

/-!
# Proofs: languages of repetitions

A counted repetition keeps all positions that it may have reached after each round. An unbounded one
walks through the text depth first and never enters an offset twice: what has been seen is recorded
among the ends, and all that a round leads to from there has been seen as well. So nothing is missed,
and an expression without conditions speaks its language.
-/

namespace Routing.Regex

open scoped Computability

namespace Reading

variable {r : Reading} {L : Language Char} {t e : Thread} {text cs : List Char} {greedy : Bool}

/-! ## At most so many rounds -/

/-- The offset of an entry that has not occurred is kept. -/
theorem exists_mem_freshEntries (left entering : Offsets) {round : Round} {inside : Bool}
    (h : (inside, t) ∈ round)
    (hnew : ¬ (if inside then entering else left).contains t.offset = true) :
    ∃ u, (inside, u) ∈ freshEntries left entering round ∧ u.offset = t.offset := by
  fun_induction freshEntries left entering round with
  | case1 => simp at h
  | case2 left entering v round hseen ih | case4 left entering v round hseen ih =>
    rcases List.mem_cons.mp h with heq | h
    · obtain ⟨rfl, rfl⟩ := Prod.mk.inj heq
      exact absurd hseen hnew
    · exact ih h hnew
  | case3 left entering v round hfresh ih =>
    by_cases hv : inside = true ∧ v.offset = t.offset
    · exact ⟨v, by simp [hv.1], hv.2⟩
    · have hnew' : ¬ (if inside then entering.insert v.offset else left).contains t.offset = true := by
        cases inside with
        | false => exact hnew
        | true =>
          have hne : t.offset ≠ v.offset := fun heq => hv ⟨rfl, heq.symm⟩
          simpa [hne] using hnew
      rcases List.mem_cons.mp h with heq | h
      · obtain ⟨rfl, rfl⟩ := Prod.mk.inj heq
        exact absurd ⟨rfl, rfl⟩ hv
      · obtain ⟨u, hu, hoffset⟩ := ih h hnew'
        exact ⟨u, List.mem_cons_of_mem _ hu, hoffset⟩
  | case5 left entering v round hfresh ih =>
    by_cases hv : inside = false ∧ v.offset = t.offset
    · exact ⟨v, by simp [hv.1], hv.2⟩
    · have hnew' : ¬ (if inside then entering else left.insert v.offset).contains t.offset = true := by
        cases inside with
        | true => exact hnew
        | false =>
          have hne : t.offset ≠ v.offset := fun heq => hv ⟨rfl, heq.symm⟩
          simpa [hne] using hnew
      rcases List.mem_cons.mp h with heq | h
      · obtain ⟨rfl, rfl⟩ := Prod.mk.inj heq
        exact absurd ⟨rfl, rfl⟩ hv
      · obtain ⟨u, hu, hoffset⟩ := ih h hnew'
        exact ⟨u, List.mem_cons_of_mem _ hu, hoffset⟩

/-- A position that may enter another round, or one that has left, has the characters ahead. -/
def Reaches (round : Round) (inside : Bool) (cs : List Char) : Prop :=
  ∃ t, (inside, t) ∈ round ∧ t.rest = cs

theorem reaches_freshEntries {round : Round} (hround : ∀ x ∈ round, x.2.In text) (inside : Bool)
    (cs : List Char) : Reaches (freshEntries {} {} round) inside cs ↔ Reaches round inside cs := by
  constructor
  · rintro ⟨t, ht, hrest⟩
    exact ⟨t, mem_of_mem_freshEntries ht, hrest⟩
  · rintro ⟨t, ht, hrest⟩
    obtain ⟨u, hu, hoffset⟩ := exists_mem_freshEntries {} {} ht (by cases inside <;> simp)
    have hin := hround _ (mem_of_mem_freshEntries hu)
    exact ⟨u, hu, (hin.rest_congr (hround _ ht) hoffset).trans hrest⟩

/-- What becomes of an entry in the next round. -/
def nextEntries (r : Reading) (greedy : Bool) : Bool × Thread → Round
  | (false, t) => [(false, t)]
  | (true, t) =>
    let go := (r t).map fun e => (true, e)
    if greedy then go ++ [(false, t)] else (false, t) :: go

theorem advance_eq (r : Reading) (greedy : Bool) (round : Round) :
    advance r greedy round = freshEntries {} {} (round.flatMap (nextEntries r greedy)) :=
  rfl

theorem mem_flatMap_nextEntries {round : Round} {inside : Bool} :
    (inside, t) ∈ round.flatMap (nextEntries r greedy) ↔
      (inside = false ∧ ((false, t) ∈ round ∨ (true, t) ∈ round)) ∨
        inside = true ∧ ∃ u, (true, u) ∈ round ∧ t ∈ r u := by
  rw [List.mem_flatMap]
  constructor
  · rintro ⟨⟨_ | _, u⟩, hu, ht⟩
    · obtain ⟨rfl, rfl⟩ := Prod.mk.inj (List.mem_singleton.mp ht)
      exact Or.inl ⟨rfl, Or.inl hu⟩
    · cases inside with
      | false =>
        obtain rfl : t = u := by cases greedy <;> simpa [nextEntries] using ht
        exact Or.inl ⟨rfl, Or.inr hu⟩
      | true => exact Or.inr ⟨rfl, u, hu, by cases greedy <;> simpa [nextEntries] using ht⟩
  · rintro (⟨rfl, ht | ht⟩ | ⟨rfl, u, hu, ht⟩)
    · exact ⟨_, ht, List.mem_singleton_self _⟩
    · exact ⟨_, ht, by cases greedy <;> simp [nextEntries]⟩
    · exact ⟨_, hu, by cases greedy <;> simp [nextEntries, ht]⟩

theorem Speaks.in_of_mem_nextEntries (hr : r.Speaks L) {round : Round}
    (hround : ∀ x ∈ round, x.2.In text) :
    ∀ x ∈ round.flatMap (nextEntries r greedy), x.2.In text := by
  rintro ⟨inside, t⟩ ht
  rcases mem_flatMap_nextEntries.mp ht with ⟨-, ht | ht⟩ | ⟨-, u, hu, ht⟩
  · exact hround (false, t) ht
  · exact hround (true, t) ht
  · exact hr.keeps text u (hround _ hu) t ht

theorem Speaks.reaches_advance (hr : r.Speaks L) {round : Round}
    (hround : ∀ x ∈ round, x.2.In text) (inside : Bool) (cs : List Char) :
    Reaches (advance r greedy round) inside cs ↔
      (inside = false ∧ (Reaches round false cs ∨ Reaches round true cs)) ∨
        inside = true ∧ ∃ w ∈ L, Reaches round true (w ++ cs) := by
  rw [advance_eq, reaches_freshEntries (hr.in_of_mem_nextEntries hround)]
  unfold Reaches
  simp only [mem_flatMap_nextEntries]
  constructor
  · rintro ⟨t, ⟨rfl, ht | ht⟩ | ⟨rfl, u, hu, ht⟩, rfl⟩
    · exact Or.inl ⟨rfl, Or.inl ⟨t, ht, rfl⟩⟩
    · exact Or.inl ⟨rfl, Or.inr ⟨t, ht, rfl⟩⟩
    · obtain ⟨w, hw, hrest⟩ := hr.exists_word (hround _ hu) ht
      exact Or.inr ⟨rfl, w, hw, u, hu, hrest⟩
  · rintro (⟨rfl, ⟨t, ht, rfl⟩ | ⟨t, ht, rfl⟩⟩ | ⟨rfl, w, hw, u, hu, hrest⟩)
    · exact ⟨t, Or.inl ⟨rfl, Or.inl ht⟩, rfl⟩
    · exact ⟨t, Or.inl ⟨rfl, Or.inr ht⟩, rfl⟩
    · obtain ⟨t, ht, hcs⟩ := (hr.ends_iff (hround _ hu) cs).mpr ⟨w, hw, hrest⟩
      exact ⟨t, Or.inr ⟨rfl, u, hu, ht⟩, hcs⟩

/-- After `n` rounds a position has been left before, or at most `n` words have been passed. -/
theorem Speaks.exists_mem_advances_iff (hr : r.Speaks L) (greedy : Bool) (n : Nat) {round : Round}
    (hround : ∀ x ∈ round, x.2.In text) (cs : List Char) :
    (∃ x ∈ advances r greedy n round, x.2.rest = cs) ↔
      Reaches round false cs ∨ ∃ w ∈ atMost L n, Reaches round true (w ++ cs) := by
  induction n generalizing round with
  | zero =>
    simp only [advances, atMost, Language.mem_one, exists_eq_left, List.nil_append, Reaches,
      Prod.exists, Bool.exists_bool]
  | succ n ih =>
    rw [advances, ih ((hr.keeps text).advance hround), hr.reaches_advance hround]
    simp only [hr.reaches_advance hround, true_and, reduceCtorEq, false_and, or_false, false_or,
      atMost]
    constructor
    · rintro ((h | h) | ⟨v, hv, w, hw, h⟩)
      · exact Or.inl h
      · exact Or.inr ⟨[], (Language.mem_add _ _ _).mpr (Or.inl rfl), h⟩
      · refine Or.inr ⟨w ++ v, (Language.mem_add _ _ _).mpr (Or.inr ?_), by rwa [List.append_assoc]⟩
        exact Language.append_mem_mul hw hv
    · rintro (h | ⟨u, hu, h⟩)
      · exact Or.inl (Or.inl h)
      · rcases (Language.mem_add _ _ _).mp hu with hu | hu
        · obtain rfl := (Language.mem_one u).mp hu
          exact Or.inl (Or.inr h)
        · obtain ⟨w, hw, v, hv, rfl⟩ := Language.mem_mul.mp hu
          exact Or.inr ⟨v, hv, w, hw, by rwa [← List.append_assoc]⟩

theorem Speaks.upTo (hr : r.Speaks L) (greedy : Bool) (n : Nat) :
    (upTo r greedy n).Speaks (atMost L n) where
  keeps := fun text => (hr.keeps text).upTo greedy n
  ends_iff := by
    intro text t ht cs
    have hstart : ∀ x ∈ ([(true, t)] : Round), x.2.In text := by simpa using ht
    have hends : ∀ e ∈ (advances r greedy n [(true, t)]).map (·.2), e.In text := by
      intro e he
      obtain ⟨x, hx, rfl⟩ := List.mem_map.mp he
      exact (hr.keeps text).advances n hstart x hx
    unfold Reading.upTo
    rw [Thread.exists_mem_distinct_iff hends]
    have hadvances := hr.exists_mem_advances_iff greedy n hstart cs
    simp only [Reaches, List.mem_singleton, Prod.mk.injEq, reduceCtorEq, false_and, exists_false,
      true_and, exists_eq_left, false_or] at hadvances
    rw [← hadvances]
    simp only [List.mem_map, exists_exists_and_eq_and]

/-! ## Any number of rounds -/

namespace Visit

/-- An end at the offset has been found. -/
def Records (visit : Visit) (text : List Char) (n : Nat) : Prop :=
  ∃ e ∈ visit.found, e.In text ∧ e.offset = n

/-- All that a round leads to from the offset has been seen. -/
def Closes (visit : Visit) (r : Reading) (text : List Char) (n : Nat) : Prop :=
  ∀ t : Thread, t.In text → t.offset = n → ∀ e ∈ r t, visit.seen.contains e.offset = true

/-- From the one visit to the other whatever is newly seen has been recorded, together with all that
a round leads to from there. -/
structure Explores (r : Reading) (text : List Char) (visit later : Visit) : Prop where
  seen : ∀ n, visit.seen.contains n = true → later.seen.contains n = true
  found : ∀ e ∈ visit.found, e ∈ later.found
  records : ∀ n, later.seen.contains n = true →
    visit.seen.contains n = true ∨ later.Records text n
  closes : ∀ n, later.seen.contains n = true →
    visit.seen.contains n = true ∨ later.Closes r text n

/-- Whatever has been seen is recorded, and from the offset `n` on all that a round leads to from
there has been seen. -/
structure Thorough (r : Reading) (text : List Char) (n : Nat) (visit : Visit) : Prop where
  records : ∀ m, visit.seen.contains m = true → visit.Records text m
  closes : ∀ m, n ≤ m → visit.seen.contains m = true → visit.Closes r text m

variable {visit later last result : Visit} {n : Nat}

theorem Explores.records_mono (h : Explores r text visit later) (hn : visit.Records text n) :
    later.Records text n := by
  obtain ⟨e, he, hin, hoffset⟩ := hn
  exact ⟨e, h.found e he, hin, hoffset⟩

theorem Explores.closes_mono (h : Explores r text visit later) (hn : visit.Closes r text n) :
    later.Closes r text n :=
  fun t ht hoffset e he => h.seen _ (hn t ht hoffset e he)

theorem Explores.refl (visit : Visit) : Explores r text visit visit :=
  ⟨fun _ h => h, fun _ h => h, fun _ => Or.inl, fun _ => Or.inl⟩

theorem Explores.trans (h : Explores r text visit later) (h' : Explores r text later last) :
    Explores r text visit last where
  seen := fun n hn => h'.seen n (h.seen n hn)
  found := fun e he => h'.found e (h.found e he)
  records := fun n hn => (h'.records n hn).elim
    (fun hlater => (h.records n hlater).imp_right h'.records_mono) Or.inr
  closes := fun n hn => (h'.closes n hn).elim
    (fun hlater => (h.closes n hlater).imp_right h'.closes_mono) Or.inr

theorem thorough_empty (r : Reading) (text : List Char) (n : Nat) :
    Thorough r text n {} :=
  ⟨by simp, by simp⟩

theorem Thorough.of_explores (h : visit.Thorough r text n) (h' : Explores r text visit later) :
    later.Thorough r text n where
  records := fun m hm => (h'.records m hm).elim (fun hm => h'.records_mono (h.records m hm)) id
  closes := fun m hn hm => (h'.closes m hm).elim (fun hm => h'.closes_mono (h.closes m hn hm)) id

/-- A thread that is recorded without going on from it. -/
theorem Thorough.enter_id (h : visit.Thorough r text n) (ht : t.In text) (hn : t.offset < n) :
    (visit.enter greedy t id).Thorough r text n ∧
      (∀ m, visit.seen.contains m = true → (visit.enter greedy t id).seen.contains m = true) ∧
      (visit.enter greedy t id).seen.contains t.offset = true := by
  by_cases hseen : visit.seen.contains t.offset = true
  · rw [enter, if_pos hseen]
    exact ⟨h, fun _ hm => hm, hseen⟩
  · have henter : visit.enter greedy t id =
        { seen := visit.seen.insert t.offset, found := t :: visit.found } := by
      rw [enter, if_neg hseen]
      cases greedy <;> rfl
    have hmark : ∀ m, (visit.seen.insert t.offset).contains m = true ↔
        visit.seen.contains m = true ∨ m = t.offset := by simp
    rw [henter]
    refine ⟨⟨fun m hm => ?_, fun m hle hm => ?_⟩, fun m hm => (hmark m).mpr (Or.inl hm),
      (hmark _).mpr (Or.inr rfl)⟩
    · rcases (hmark m).mp hm with hm | rfl
      · obtain ⟨e, he, hin⟩ := h.records m hm
        exact ⟨e, List.mem_cons_of_mem _ he, hin⟩
      · exact ⟨t, List.mem_cons_self, ht, rfl⟩
    · have hold := ((hmark m).mp hm).resolve_right (by omega)
      exact fun u hu hoffset e he => (hmark _).mpr (Or.inl (h.closes m hle hold u hu hoffset e he))

/-- A thread is done when it has been marked as seen, all that a round leads to from it has been
explored and it has been recorded. -/
theorem explores_of_start (start : Visit) (hr : r.Speaks L) (ht : t.In text)
    (hmarked : ∀ n, start.seen.contains n = true ↔ visit.seen.contains n = true ∨ n = t.offset)
    (hkept : ∀ e ∈ visit.found, e ∈ start.found) (hexplores : Explores r text start result)
    (hreached : ∀ e ∈ r t, result.seen.contains e.offset = true) (hrecorded : t ∈ result.found) :
    Explores r text visit result where
  seen := fun n hn => hexplores.seen n ((hmarked n).mpr (Or.inl hn))
  found := fun e he => hexplores.found e (hkept e he)
  records := by
    intro n hn
    rcases hexplores.records n hn with hstart | hrecords
    · exact ((hmarked n).mp hstart).imp_right fun heq => ⟨t, hrecorded, ht, heq.symm⟩
    · exact Or.inr hrecords
  closes := by
    intro n hn
    rcases hexplores.closes n hn with hstart | hcloses
    · refine ((hmarked n).mp hstart).imp_right fun heq u hu hoffset e he => ?_
      -- what a round leads to depends on the offset alone
      have hrest := hu.rest_congr ht (hoffset.trans heq)
      have hword := hr.exists_word hu he
      rw [hrest] at hword
      obtain ⟨e', he', hrest'⟩ := (hr.ends_iff ht e.rest).mpr hword
      have hin := hr.keeps text u hu e he
      have hin' := hr.keeps text t ht e' he'
      rw [hin.offset_congr hin' hrest'.symm]
      exact hreached e' he'
    · exact Or.inr hcloses

/-- A visit of a thread that is new explores what it sees, if what lies behind the thread is explored
whether the thread has been recorded before or is recorded after that. -/
theorem explores_enter (hr : r.Speaks L) (ht : t.In text) (greedy : Bool) {go : Visit → Visit}
    (hnew : ¬ visit.seen.contains t.offset = true)
    (hgo : ∀ start : Visit, start.seen.contains t.offset = true →
      Explores r text start (go start) ∧ ∀ e ∈ r t, (go start).seen.contains e.offset = true) :
    Explores r text visit (visit.enter greedy t go) ∧
      (visit.enter greedy t go).seen.contains t.offset = true := by
  unfold enter
  rw [if_neg hnew]
  have hmark : (visit.seen.insert t.offset).contains t.offset = true := by simp
  cases greedy with
  | true =>
    obtain ⟨hexplores, hreached⟩ := hgo { visit with seen := visit.seen.insert t.offset } hmark
    refine ⟨explores_of_start { visit with seen := visit.seen.insert t.offset } hr ht (by simp)
      (fun _ he => he) ?_ hreached List.mem_cons_self, hexplores.seen _ hmark⟩
    refine ⟨hexplores.seen, fun e he => List.mem_cons_of_mem _ (hexplores.found e he),
      fun n hn => (hexplores.records n hn).imp_right ?_, hexplores.closes⟩
    rintro ⟨e, he, hin⟩
    exact ⟨e, List.mem_cons_of_mem _ he, hin⟩
  | false =>
    obtain ⟨hexplores, hreached⟩ :=
      hgo { seen := visit.seen.insert t.offset, found := t :: visit.found } hmark
    exact ⟨explores_of_start { seen := visit.seen.insert t.offset, found := t :: visit.found } hr ht
      (by simp) (fun _ he => List.mem_cons_of_mem _ he) hexplores hreached
      (hexplores.found t List.mem_cons_self), hexplores.seen _ hmark⟩

end Visit

open Visit (Explores Thorough)

/-- A walk sees the thread from which it begins, and it explores what it sees. -/
theorem Speaks.explores_walk (hr : r.Speaks L) (greedy : Bool) {fuel : Nat} {visit : Visit}
    (ht : t.In text)
    (hfuel : t.rest.length < fuel ∨ visit.seen.contains t.offset = true) :
    Explores r text visit (walk r greedy fuel t visit) ∧
      (walk r greedy fuel t visit).seen.contains t.offset = true := by
  induction fuel generalizing t visit with
  | zero => exact ⟨.refl visit, hfuel.resolve_left (Nat.not_lt_zero _)⟩
  | succ fuel ih =>
    have hfold : ∀ (ts : List Thread) (visit : Visit),
        (∀ e ∈ ts, e.In text ∧ (e.rest.length < fuel ∨ visit.seen.contains e.offset = true)) →
        Explores r text visit (ts.foldl (fun visit e => walk r greedy fuel e visit) visit) ∧
          ∀ e ∈ ts, (ts.foldl (fun visit e => walk r greedy fuel e visit) visit).seen.contains
            e.offset = true := by
      intro ts
      induction ts with
      | nil => exact fun visit _ => ⟨.refl visit, by simp⟩
      | cons u ts iht =>
        intro visit hts
        obtain ⟨hu, husmall⟩ := hts u (by simp)
        obtain ⟨hfirst, huseen⟩ := ih hu husmall
        obtain ⟨hlater, hseen⟩ := iht (walk r greedy fuel u visit) fun e he =>
          ⟨(hts e (by simp [he])).1, (hts e (by simp [he])).2.imp_right (hfirst.seen _)⟩
        refine ⟨hfirst.trans hlater, fun e he => ?_⟩
        rcases List.mem_cons.mp he with rfl | he
        · exact hlater.seen _ huseen
        · exact hseen e he
    rw [walk]
    by_cases hseen : visit.seen.contains t.offset = true
    · rw [Visit.enter, if_pos hseen]
      exact ⟨.refl visit, hseen⟩
    · have hlength := hfuel.resolve_right hseen
      refine Visit.explores_enter hr ht greedy hseen fun start hstart => hfold (r t) start ?_
      -- a round that consumes nothing leads to what has been seen, any other one needs less fuel
      intro e he
      have hin := hr.keeps text t ht e he
      refine ⟨hin, or_iff_not_imp_right.mpr fun hnew => ?_⟩
      have hne : e.offset ≠ t.offset := fun heq => hnew (heq ▸ hstart)
      have hle := hr.length_rest_le ht he
      have hsum := hin.offset_add_length.trans ht.offset_add_length.symm
      omega

/-- Behind words from a thread on that has been seen, an end has been found. -/
theorem Visit.Thorough.exists_mem_found {visit : Visit} {n : Nat} (h : visit.Thorough r text n)
    (hr : r.Speaks L) (ht : t.In text) (hn : n ≤ t.offset)
    (hseen : visit.seen.contains t.offset = true) {words : List (List Char)}
    (hwords : ∀ w ∈ words, w ∈ L) (hrest : t.rest = words.flatten ++ cs) :
    ∃ e ∈ visit.found, e.rest = cs := by
  induction words generalizing t with
  | nil =>
    obtain ⟨e, he, hin, hoffset⟩ := h.records _ hseen
    exact ⟨e, he, (hin.rest_congr ht hoffset).trans hrest⟩
  | cons w words ih =>
    rw [List.flatten_cons, List.append_assoc] at hrest
    obtain ⟨e, he, herest⟩ := (hr.ends_iff ht _).mpr ⟨w, hwords w (by simp), hrest⟩
    have hin := hr.keeps text t ht e he
    have hle := hr.length_rest_le ht he
    have hsum := hin.offset_add_length.trans ht.offset_add_length.symm
    exact ih hin (by omega) (h.closes _ hn hseen t ht rfl e he)
      (fun v hv => hwords v (by simp [hv])) herest

/-- The same behind one word at least, if it is all that has been seen that a first round leads to.
Words that are empty are passed over. -/
theorem Visit.Thorough.exists_mem_found_plus {visit : Visit}
    (h : visit.Thorough r text (t.offset + 1)) (hr : r.Speaks L) (ht : t.In text)
    (hseen : ∀ e ∈ r t, visit.seen.contains e.offset = true) {first : List Char}
    {words : List (List Char)} (hfirst : first ∈ L) (hwords : ∀ w ∈ words, w ∈ L)
    (hrest : t.rest = first ++ (words.flatten ++ cs)) : ∃ e ∈ visit.found, e.rest = cs := by
  induction words generalizing first with
  | nil =>
    obtain ⟨e, he, herest⟩ := (hr.ends_iff ht _).mpr ⟨first, hfirst, hrest⟩
    obtain ⟨e', he', hin, hoffset⟩ := h.records _ (hseen e he)
    exact ⟨e', he', (hin.rest_congr (hr.keeps text t ht e he) hoffset).trans herest⟩
  | cons w words ih =>
    obtain ⟨e, he, herest⟩ := (hr.ends_iff ht _).mpr ⟨first, hfirst, hrest⟩
    have hin := hr.keeps text t ht e he
    by_cases hoffset : e.offset = t.offset
    · rw [List.flatten_cons, List.append_assoc] at herest
      exact ih (hwords w (by simp)) (fun v hv => hwords v (by simp [hv]))
        ((ht.rest_congr hin hoffset.symm).trans herest)
    · have hle := hr.length_rest_le ht he
      have hsum := hin.offset_add_length.trans ht.offset_add_length.symm
      exact h.exists_mem_found hr hin (by omega) (hseen e he) hwords herest

theorem Speaks.star (hr : r.Speaks L) (greedy : Bool) : (star r greedy).Speaks L∗ where
  keeps := fun text => (hr.keeps text).star greedy
  ends_iff := by
    intro text t ht cs
    constructor
    · rintro ⟨e, he, rfl⟩
      have hkeeps : r.Keeps fun e => e.In text ∧ ∃ w ∈ L∗, t.rest = w ++ e.rest := by
        rintro m ⟨hm, v, hv, hrest⟩ e he
        obtain ⟨w, hw, hmrest⟩ := hr.exists_word hm he
        refine ⟨hr.keeps text m hm e he, v ++ w, ?_, by rw [hrest, hmrest, List.append_assoc]⟩
        exact (kstar_mul_le_kstar : L∗ * L ≤ L∗) (Language.append_mem_mul hv hw)
      exact (hkeeps.star greedy t ⟨ht, [], Language.nil_mem_kstar L, rfl⟩ e he).2
    · rintro ⟨_, hw, hrest⟩
      obtain ⟨words, rfl, hwords⟩ := Language.mem_kstar.mp hw
      obtain ⟨hexplores, hseen⟩ :=
        hr.explores_walk greedy ht (Or.inl (Nat.lt_succ_self t.rest.length))
      have hthorough := (Visit.thorough_empty r text 0).of_explores hexplores
      obtain ⟨e, he, hcs⟩ :=
        hthorough.exists_mem_found hr ht (Nat.zero_le _) hseen hwords hrest
      exact ⟨e, List.mem_reverse.mpr he, hcs⟩

/-- After a first round that consumes nothing the repetition ends; any other one is followed by a
walk. -/
theorem Speaks.thorough_foldl_plus (hr : r.Speaks L) (greedy : Bool) (t : Thread)
    {ts : List Thread} (hts : ∀ e ∈ ts, e.In text) {visit : Visit}
    (hvisit : visit.Thorough r text (t.offset + 1)) :
    let later := ts.foldl (fun visit e =>
      if e.offset = t.offset then visit.enter greedy e id
      else walk r greedy (e.rest.length + 1) e visit) visit
    later.Thorough r text (t.offset + 1) ∧
      (∀ n, visit.seen.contains n = true → later.seen.contains n = true) ∧
      ∀ e ∈ ts, later.seen.contains e.offset = true := by
  induction ts generalizing visit with
  | nil => exact ⟨hvisit, fun _ hn => hn, by simp⟩
  | cons u ts ih =>
    have hu := hts u (by simp)
    set next : Visit := if u.offset = t.offset then visit.enter greedy u id
      else walk r greedy (u.rest.length + 1) u visit with hnext
    have hstep : next.Thorough r text (t.offset + 1) ∧
        (∀ n, visit.seen.contains n = true → next.seen.contains n = true) ∧
        next.seen.contains u.offset = true := by
      by_cases hoffset : u.offset = t.offset
      · rw [hnext, if_pos hoffset]
        exact hvisit.enter_id hu (by omega)
      · rw [hnext, if_neg hoffset]
        obtain ⟨hexplores, hseen⟩ :=
          hr.explores_walk greedy hu (Or.inl (Nat.lt_succ_self u.rest.length))
        exact ⟨hvisit.of_explores hexplores, hexplores.seen, hseen⟩
    obtain ⟨hthorough, hmono, hseen⟩ := hstep
    obtain ⟨hlater, hmono', hseen'⟩ := ih (fun e he => hts e (by simp [he])) hthorough
    refine ⟨hlater, fun n hn => hmono' n (hmono n hn), fun e he => ?_⟩
    rcases List.mem_cons.mp he with rfl | he
    · exact hmono' _ hseen
    · exact hseen' e he

theorem Speaks.plus (hr : r.Speaks L) (greedy : Bool) : (plus r greedy).Speaks (L * L∗) where
  keeps := fun text => (hr.keeps text).plus greedy
  ends_iff := by
    intro text t ht cs
    constructor
    · rintro ⟨e, he, rfl⟩
      have hkeeps : r.Keeps fun e => e.In text ∧ ∃ w ∈ L * L∗, t.rest = w ++ e.rest := by
        rintro m ⟨hm, v, hv, hrest⟩ e he
        obtain ⟨w, hw, hmrest⟩ := hr.exists_word hm he
        refine ⟨hr.keeps text m hm e he, v ++ w, ?_, by rw [hrest, hmrest, List.append_assoc]⟩
        obtain ⟨first, hfirst, more, hmore, rfl⟩ := Language.mem_mul.mp hv
        rw [List.append_assoc]
        refine Language.append_mem_mul hfirst ?_
        exact (kstar_mul_le_kstar : L∗ * L ≤ L∗) (Language.append_mem_mul hmore hw)
      refine (hkeeps.forall_mem_plus greedy (t := t) (fun m hm => ?_) e he).2
      obtain ⟨w, hw, hrest⟩ := hr.exists_word ht hm
      refine ⟨hr.keeps text t ht m hm, w, ?_, hrest⟩
      rw [← List.append_nil w]
      exact Language.append_mem_mul hw (Language.nil_mem_kstar L)
    · rintro ⟨_, hw, hrest⟩
      obtain ⟨first, hfirst, _, hmore, rfl⟩ := Language.mem_mul.mp hw
      obtain ⟨words, rfl, hwords⟩ := Language.mem_kstar.mp hmore
      obtain ⟨hthorough, -, hseen⟩ := hr.thorough_foldl_plus greedy t (hr.keeps text t ht)
        (Visit.thorough_empty r text (t.offset + 1))
      rw [List.append_assoc] at hrest
      obtain ⟨e, he, hcs⟩ := hthorough.exists_mem_found_plus hr ht hseen hfirst hwords hrest
      exact ⟨e, List.mem_reverse.mpr he, hcs⟩

theorem Speaks.atLeast (hr : r.Speaks L) (greedy nullable : Bool) (n : Nat) :
    (atLeast r greedy nullable n).Speaks (L ^ n * L∗) := by
  cases n with
  | zero =>
    rw [pow_zero, one_mul]
    cases nullable with
    | false => exact hr.star greedy
    | true =>
      have hplus := hr.plus greedy
      rw [← Language.one_add_self_mul_kstar_eq_kstar]
      cases greedy with
      | true =>
        rw [add_comm]
        exact (hplus.append speaks_one).distinct
      | false => exact (speaks_one.append hplus).distinct
  | succ n =>
    rw [pow_succ, mul_assoc]
    exact (hr.times n).seq (hr.plus greedy)

end Reading

/-! ## Expressions without conditions -/

namespace Node

variable {node : Node} {nodes : List Node} {text : List Char}

/-- An expression without conditions speaks its language. -/
theorem speaks_ends (h : node.isFree = true) : Reading.Speaks (ends node) node.language := by
  induction node with
  | empty => exact Reading.speaks_one
  | set chars => exact speaks_set chars
  | look condition => simp [isFree] at h
  | group index name body ih => exact speaks_group (ih h) index name
  | cat first second ih₁ ih₂ =>
    obtain ⟨h₁, h₂⟩ := Bool.and_eq_true_iff.mp h
    exact (ih₁ h₁).seq (ih₂ h₂)
  | alt first second ih₁ ih₂ =>
    obtain ⟨h₁, h₂⟩ := Bool.and_eq_true_iff.mp h
    exact (ih₁ h₁).orElse (ih₂ h₂)
  | «repeat» min max greedy body ih =>
    cases max with
    | none => exact (ih h).atLeast greedy body.nullable min
    | some max => exact ((ih h).times min).seq ((ih h).upTo greedy (max - min))

/-- Expressions one after the other speak the product of their languages. -/
theorem speaks_chain (h : ∀ node ∈ nodes, node.isFree = true) :
    Reading.Speaks (chain nodes) (nodes.map language).prod := by
  induction nodes with
  | nil => exact Reading.speaks_one
  | cons node nodes ih =>
    rw [List.map_cons, List.prod_cons]
    exact (speaks_ends (h node (by simp))).flatMap (ih fun node hnode => h node (by simp [hnode]))

/-- Between anchors, expressions without conditions accept the words of their language. -/
theorem isSome_search_anchored (h : ∀ node ∈ nodes, node.isFree = true) (text : List Char) :
    (search ((nodes ++ [look .textEnd]).foldl cat (look .textStart)) text).isSome = true ↔
      text ∈ (nodes.map language).prod := by
  have hspeaks := (speaks_chain h).ends_iff (Thread.in_start text) []
  simp only [List.append_nil, exists_eq_right'] at hspeaks
  rw [search_anchored, Option.isSome_map, chain_append, funext chain_textEnd, List.isSome_head?,
    ← hspeaks]
  simp

end Node

end Routing.Regex
