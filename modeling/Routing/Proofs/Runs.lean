import Routing.Proofs.Positions

/-!
# Proofs: runs of characters of one set

One or more characters of a set end behind every non-empty prefix that lies in the set: behind the
longest one first if the repetition is greedy, behind the shortest one first if it is lazy. Such an
item may be left out, and is left out last.
-/

namespace Routing.Regex

variable {p : Char → Bool} {cs v w r : List Char}

/-- The text cut behind its non-empty prefixes in `p`, the shortest first. -/
def cuts (p : Char → Bool) : List Char → List (List Char × List Char)
  | [] => []
  | c :: cs => if p c then ([c], cs) :: (cuts p cs).map fun cut => (c :: cut.1, cut.2) else []

/-- The cuts are the ways to take a non-empty run of characters with the property from the front. -/
theorem mem_cuts : (v, r) ∈ cuts p cs ↔ v ≠ [] ∧ (∀ c ∈ v, p c = true) ∧ cs = v ++ r := by
  induction cs generalizing v with
  | nil => cases v <;> simp [cuts]
  | cons c cs ih =>
    cases v with
    | nil =>
      unfold cuts
      split_ifs <;> simp
    | cons d v =>
      unfold cuts
      split_ifs with hc
      · rw [List.mem_cons, List.mem_map]
        constructor
        · rintro (h | ⟨⟨w, r'⟩, hw, h⟩)
          · simp only [Prod.mk.injEq, List.cons.injEq] at h
            obtain ⟨⟨rfl, rfl⟩, rfl⟩ := h
            simp [hc]
          · simp only [Prod.mk.injEq, List.cons.injEq] at h
            obtain ⟨⟨rfl, rfl⟩, rfl⟩ := h
            obtain ⟨-, hall, rfl⟩ := ih.mp hw
            simpa [hc] using hall
        · rintro ⟨-, hall, h⟩
          obtain ⟨rfl, rfl⟩ := List.cons.inj h
          by_cases hv : v = []
          · exact Or.inl (by subst hv; rfl)
          · exact Or.inr ⟨(v, r), ih.mpr ⟨hv, fun e he => hall e (by simp [he]), rfl⟩, rfl⟩
      · simp only [List.not_mem_nil, false_iff]
        rintro ⟨-, hall, h⟩
        obtain ⟨rfl, -⟩ := List.cons.inj h
        exact hc (hall c (by simp))

/-- Cuts are in the order of their length. -/
theorem pairwise_cuts (p : Char → Bool) (cs : List Char) :
    (cuts p cs).Pairwise fun x y => x.1.length < y.1.length := by
  induction cs with
  | nil => exact .nil
  | cons c cs ih =>
    unfold cuts
    split_ifs with hc
    · refine .cons ?_ (ih.map _ fun x y h => Nat.succ_lt_succ h)
      intro x hx
      obtain ⟨⟨w, r⟩, hw, rfl⟩ := List.mem_map.mp hx
      have hne := (mem_cuts.mp hw).1
      simpa using List.length_pos_iff.mpr hne
    · exact .nil

/-- The thread behind `v`, with `r` ahead. -/
def Thread.past (t : Thread) (v r : List Char) : Thread :=
  { t with offset := t.offset + v.length, before := v.getLast?.or t.before, rest := r }

/-- Threads, the shortest way first, in the order of preference. -/
def Reading.preferred {α : Type} (greedy : Bool) (ts : List α) : List α :=
  if greedy then ts.reverse else ts

theorem Thread.past_nil (t : Thread) : t.past [] t.rest = t := by
  simp [past]

theorem Thread.past_cons (t : Thread) (c : Char) (v r : List Char) :
    t.past (c :: v) r = (t.past [c] (v ++ r)).past v r := by
  have hbefore : (c :: v).getLast? = v.getLast?.or (some c) := by
    cases v <;> simp [List.getLast?_cons]
  simp [past, hbefore, Nat.add_assoc, Nat.add_comm 1]

namespace Node

open Reading (Visit walk plus)

variable {chars : CharSet} {t e : Thread} {c : Char}

/-- A set passes one character if it holds it. -/
theorem ends_set_cons (hrest : t.rest = c :: cs) :
    ends (.set chars) t = if chars.contains c then [t.past [c] cs] else [] := by
  simp only [ends, Thread.consume?, hrest]
  split_ifs <;> rfl

theorem map_past_cuts (hc : p c = true) :
    (cuts p (c :: cs)).map (fun cut => t.past cut.1 cut.2) =
      t.past [c] cs :: (cuts p cs).map fun cut => (t.past [c] cs).past cut.1 cut.2 := by
  rw [cuts, if_pos hc, List.map_cons, List.map_map]
  refine congrArg _ (List.map_congr_left fun cut hcut => ?_)
  rw [Function.comp_apply, Thread.past_cons, ← (mem_cuts.mp hcut).2.2]

/-- The walk through further characters of the set from a new offset on. -/
theorem found_walk_set (chars : CharSet) (greedy : Bool) (fuel : Nat) (visit : Visit)
    (hfuel : e.rest.length < fuel)
    (hseen : ∀ n, e.offset ≤ n → visit.seen.contains n = false) :
    (walk (ends (.set chars)) greedy fuel e visit).found.reverse = visit.found.reverse ++
      Reading.preferred greedy
        (e :: (cuts chars.contains e.rest).map fun cut => e.past cut.1 cut.2) := by
  -- by induction on what is ahead: a step passes one character of the set, and all that the walk
  -- has seen lies before the new offset, so it never stops early
  generalize hrest : e.rest = cs at hfuel
  induction cs generalizing e visit fuel with
  | nil =>
    obtain ⟨fuel, rfl⟩ := Nat.exists_eq_add_of_lt hfuel
    have hends : ends (.set chars) e = [] := by simp [ends, Thread.consume?, hrest]
    cases greedy <;>
      simp [walk, Visit.enter, hseen _ (Nat.le_refl _), hends, cuts, Reading.preferred]
  | cons c cs ih =>
    obtain ⟨fuel, rfl⟩ := Nat.exists_eq_add_of_lt hfuel
    rw [walk, Visit.enter, hseen _ (Nat.le_refl _), ends_set_cons hrest]
    by_cases hc : chars.contains c = true
    · have hseen' : ∀ n, (e.past [c] cs).offset ≤ n →
          (visit.seen.insert e.offset).contains n = false := by
        intro n hn
        have hlt : e.offset < n := hn
        simp [hseen n (Nat.le_of_lt hlt), Nat.ne_of_gt hlt]
      have hdeeper := fun found => ih (e := e.past [c] cs) ((c :: cs).length + fuel)
        { visit with seen := visit.seen.insert e.offset, found } hseen' rfl
        (by simp only [List.length_cons]; omega)
      cases greedy with
      | true =>
        simp only [hc, Bool.false_eq_true, if_false, if_true, List.foldl_cons, List.foldl_nil,
          map_past_cuts, List.reverse_cons, hdeeper, List.append_assoc, Reading.preferred]
      | false =>
        simp only [hc, Bool.false_eq_true, if_false, if_true, List.foldl_cons, List.foldl_nil,
          map_past_cuts, List.reverse_cons, hdeeper, List.append_assoc, Reading.preferred,
          List.singleton_append]
    · cases greedy <;> simp [cuts, hc, Reading.preferred]

theorem pairwise_past_cuts (p : Char → Bool) (t : Thread) (cs : List Char) :
    ((cuts p cs).map fun cut => t.past cut.1 cut.2).Pairwise fun e e' => e.offset < e'.offset :=
  (pairwise_cuts p cs).map _ fun _ _ h => Nat.add_lt_add_left h t.offset

theorem map_preferred {α β : Type} (f : α → β) (greedy : Bool) (ts : List α) :
    (Reading.preferred greedy ts).map f = Reading.preferred greedy (ts.map f) := by
  cases greedy <;> simp [Reading.preferred]

/-- A set repeated passes every non-empty run of its characters, in the order of preference. -/
theorem plus_set (chars : CharSet) (greedy : Bool) (t : Thread) :
    plus (ends (.set chars)) greedy t = Reading.preferred greedy
      ((cuts chars.contains t.rest).map fun cut => t.past cut.1 cut.2) := by
  cases hrest : t.rest with
  | nil =>
    have hends : ends (.set chars) t = [] := by simp [ends, Thread.consume?, hrest]
    cases greedy <;> simp [plus, hends, cuts, Reading.preferred]
  | cons c cs =>
    rw [plus, ends_set_cons hrest]
    by_cases hc : chars.contains c = true
    · have hoffset : (t.past [c] cs).offset ≠ t.offset := Nat.succ_ne_self t.offset
      simp only [hc, if_true, List.foldl_cons, List.foldl_nil, hoffset, if_false]
      rw [found_walk_set chars greedy _ _ (Nat.lt_succ_self _) (by simp), map_past_cuts hc]
      rfl
    · cases greedy <;> simp [cuts, hc, Reading.preferred]

/-- One or more characters of the set. -/
theorem ends_repeat_set (chars : CharSet) (greedy : Bool) (t : Thread) :
    ends (.repeat 1 none greedy (.set chars)) t =
      (Reading.preferred greedy (cuts chars.contains t.rest)).map
        fun cut => t.past cut.1 cut.2 := by
  have hdistinct : (Reading.preferred greedy
      ((cuts chars.contains t.rest).map fun cut => t.past cut.1 cut.2)).Pairwise
        fun e e' => e.offset ≠ e'.offset := by
    have hlt := pairwise_past_cuts chars.contains t t.rest
    cases greedy with
    | true => exact (List.pairwise_reverse.mpr hlt).imp fun h => Nat.ne_of_gt h
    | false => exact hlt.imp fun h => Nat.ne_of_lt h
  show Thread.distinct ([t].flatMap (plus (ends (.set chars)) greedy)) = _
  rw [List.flatMap_singleton, plus_set, Thread.distinct_eq_self hdistinct, map_preferred]

/-- Entries at different offsets are all fresh. -/
theorem freshEntries_round {ts : List Thread} {entering : Offsets}
    (hpairwise : ts.Pairwise fun e e' => e.offset ≠ e'.offset)
    (hentering : ∀ e ∈ ts, ¬ entering.contains e.offset = true) :
    Reading.freshEntries {} entering (ts.map (fun e => (true, e)) ++ [(false, t)]) =
      ts.map (fun e => (true, e)) ++ [(false, t)] := by
  induction ts generalizing entering with
  | nil => simp [Reading.freshEntries]
  | cons e ts ih =>
    rw [List.pairwise_cons] at hpairwise
    rw [List.map_cons, List.cons_append, Reading.freshEntries, if_neg (hentering e (by simp)),
      ih hpairwise.2]
    intro e' he'
    have hne : e'.offset ≠ e.offset := fun h => hpairwise.1 e' he' h.symm
    simp [hne, hentering e' (by simp [he'])]

/-- What may be left out is left out last, if it passes characters whenever it takes part. -/
theorem ends_optional {body : Node} {t : Thread}
    (hpairwise : (ends body t).Pairwise fun e e' => e.offset ≠ e'.offset)
    (hoffset : ∀ e ∈ ends body t, e.offset ≠ t.offset) :
    ends (.repeat 0 (some 1) true body) t = ends body t ++ [t] := by
  have hdistinct : Thread.distinct (ends body t ++ [t]) = ends body t ++ [t] :=
    Thread.distinct_eq_self (List.pairwise_append.mpr ⟨hpairwise, by simp, by simpa using hoffset⟩)
  have hupTo : Reading.upTo (ends body) true 1 t = ends body t ++ [t] := by
    rw [Reading.upTo, Reading.advances, Reading.advances, Reading.advance, List.flatMap_singleton]
    dsimp only
    rw [if_pos rfl, freshEntries_round hpairwise (by simp), List.map_append, List.map_map]
    rw [show (fun x : Bool × Thread => x.2) ∘ (fun e => (true, e)) = id from rfl, List.map_id]
    exact hdistinct
  show Thread.distinct ([t].flatMap (Reading.upTo (ends body) true 1)) = _
  rw [List.flatMap_singleton, hupTo, hdistinct]

end Node

end Routing.Regex
