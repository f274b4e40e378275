import Routing.Regex.Match

/-!
# Proofs: one thread for every offset

`Thread.distinct` keeps the first thread of every offset and drops the later ones. As long as what
is read next depends on the offset alone, nothing is lost: dropping before the next reading or after
it comes to the same, and the first thread stays the first.
-/

namespace Routing.Regex

namespace Offsets

/-- The set with the offsets of all the threads as further members. -/
def insertAll (seen : Offsets) (ts : List Thread) : Offsets :=
  ts.foldl (fun seen t => seen.insert t.offset) seen

theorem contains_insertAll (seen : Offsets) (ts : List Thread) (n : Nat) :
    (seen.insertAll ts).contains n = true ↔ seen.contains n = true ∨ ∃ t ∈ ts, t.offset = n := by
  induction ts generalizing seen with
  | nil => simp [insertAll]
  | cons t ts ih =>
    show ((seen.insert t.offset).insertAll ts).contains n = true ↔ _
    rw [ih, contains_insert]
    simp only [Bool.or_eq_true, decide_eq_true_eq, List.mem_cons, exists_eq_or_imp]
    rw [or_assoc, eq_comm (a := n)]

end Offsets

namespace Thread

variable {seen seen' : Offsets} {t : Thread} {ts us : List Thread}

theorem unseen_cons_of_seen (h : seen.contains t.offset = true) :
    unseen seen (t :: ts) = unseen seen ts := by
  rw [unseen, if_pos h]

theorem unseen_cons_of_new (h : ¬ seen.contains t.offset = true) :
    unseen seen (t :: ts) = t :: unseen (seen.insert t.offset) ts := by
  rw [unseen, if_neg h]

/-- Only the members of the set matter, not how it was built. -/
theorem unseen_congr (h : ∀ n, seen.contains n = true ↔ seen'.contains n = true) :
    unseen seen ts = unseen seen' ts := by
  induction ts generalizing seen seen' with
  | nil => rfl
  | cons t ts ih =>
    by_cases ht : seen.contains t.offset = true
    · rw [unseen_cons_of_seen ht, unseen_cons_of_seen ((h _).mp ht), ih h]
    · rw [unseen_cons_of_new ht, unseen_cons_of_new (fun h' => ht ((h _).mpr h'))]
      refine congrArg (t :: ·) (ih fun n => ?_)
      simp only [Offsets.contains_insert, Bool.or_eq_true, h n]

theorem unseen_append :
    unseen seen (ts ++ us) = unseen seen ts ++ unseen (seen.insertAll ts) us := by
  induction ts generalizing seen with
  | nil => rfl
  | cons t ts ih =>
    by_cases ht : seen.contains t.offset = true
    · rw [List.cons_append, unseen_cons_of_seen ht, unseen_cons_of_seen ht, ih]
      refine congrArg (unseen seen ts ++ ·) (unseen_congr fun n => ?_)
      simp only [Offsets.contains_insertAll, List.mem_cons, exists_eq_or_imp]
      constructor
      · exact fun h => h.imp_right Or.inr
      · rintro (h | rfl | h)
        · exact Or.inl h
        · exact Or.inl ht
        · exact Or.inr h
    · rw [List.cons_append, unseen_cons_of_new ht, unseen_cons_of_new ht, ih]
      rfl

/-- Threads at offsets that are all in the set are dropped. -/
theorem unseen_eq_nil (h : ∀ t ∈ ts, seen.contains t.offset = true) : unseen seen ts = [] := by
  induction ts with
  | nil => rfl
  | cons t ts ih =>
    rw [unseen_cons_of_seen (h t (by simp)), ih fun u hu => h u (by simp [hu])]

theorem mem_of_mem_unseen (h : t ∈ unseen seen ts) : t ∈ ts := by
  induction ts generalizing seen with
  | nil => exact h
  | cons u ts ih =>
    by_cases hu : seen.contains u.offset = true
    · rw [unseen_cons_of_seen hu] at h
      exact List.mem_cons_of_mem _ (ih h)
    · rw [unseen_cons_of_new hu] at h
      rcases List.mem_cons.mp h with rfl | h
      · exact List.mem_cons_self
      · exact List.mem_cons_of_mem _ (ih h)

/-- Every new offset keeps one of its threads. -/
theorem exists_mem_unseen (ht : t ∈ ts) (hn : ¬ seen.contains t.offset = true) :
    ∃ u ∈ unseen seen ts, u.offset = t.offset := by
  induction ts generalizing seen with
  | nil => simp at ht
  | cons v ts ih =>
    by_cases hv : seen.contains v.offset = true
    · rw [unseen_cons_of_seen hv]
      rcases List.mem_cons.mp ht with rfl | ht
      · exact absurd hv hn
      · exact ih ht hn
    · rw [unseen_cons_of_new hv]
      by_cases hvt : v.offset = t.offset
      · exact ⟨v, by simp, hvt⟩
      · rcases List.mem_cons.mp ht with rfl | ht
        · exact absurd rfl hvt
        · have hn' : ¬ (seen.insert v.offset).contains t.offset = true := by
            simp [hn, Ne.symm hvt]
          obtain ⟨u, hu, hut⟩ := ih ht hn'
          exact ⟨u, List.mem_cons_of_mem _ hu, hut⟩

theorem mem_of_mem_distinct (h : t ∈ distinct ts) : t ∈ ts :=
  mem_of_mem_unseen h

theorem exists_mem_distinct (h : t ∈ ts) : ∃ u ∈ distinct ts, u.offset = t.offset :=
  exists_mem_unseen h (by simp)

/-- A change of the threads that keeps their offsets changes the kept threads alone. -/
theorem distinct_map {f : Thread → Thread} (hf : ∀ t, (f t).offset = t.offset) :
    distinct (ts.map f) = (distinct ts).map f := by
  suffices h : ∀ seen, unseen seen (ts.map f) = (unseen seen ts).map f from h {}
  induction ts with
  | nil => exact fun _ => rfl
  | cons t ts ih =>
    intro seen
    by_cases ht : seen.contains t.offset = true
    · rw [List.map_cons, unseen_cons_of_seen (by rwa [hf]), unseen_cons_of_seen ht, ih]
    · rw [List.map_cons, unseen_cons_of_new (by rwa [hf]), unseen_cons_of_new ht, List.map_cons,
        hf, ih]

/-- The first thread is never dropped. -/
theorem head?_distinct : (distinct ts).head? = ts.head? := by
  cases ts with
  | nil => rfl
  | cons t ts => rw [distinct, unseen_cons_of_new (by simp)]; rfl

/-- Threads at pairwise different offsets are all kept. -/
theorem distinct_eq_self (h : ts.Pairwise fun t u => t.offset ≠ u.offset) : distinct ts = ts := by
  suffices hs : ∀ seen : Offsets, (∀ t ∈ ts, ¬ seen.contains t.offset = true) →
      unseen seen ts = ts from hs {} (by simp)
  induction ts with
  | nil => exact fun _ _ => rfl
  | cons t ts ih =>
    intro seen hseen
    obtain ⟨hhead, htail⟩ := List.pairwise_cons.mp h
    rw [unseen_cons_of_new (hseen t (by simp)), ih htail]
    intro u hu
    simp [hseen u (by simp [hu]), (hhead u hu).symm]

/-- Dropping threads before a reading and after it comes to the same, if the offsets read depend on
the offset alone. -/
theorem unseen_flatMap_unseen {r : Thread → List Thread} {dropped : Offsets}
    (hr : ∀ t ∈ ts, ∀ u ∈ ts, t.offset = u.offset → (r t).map offset = (r u).map offset)
    (hd : ∀ t ∈ ts, dropped.contains t.offset = true → ∀ e ∈ r t, seen.contains e.offset = true) :
    unseen seen ((unseen dropped ts).flatMap r) = unseen seen (ts.flatMap r) := by
  induction ts generalizing seen dropped with
  | nil => rfl
  | cons t ts ih =>
    have hr' : ∀ u ∈ ts, ∀ v ∈ ts, u.offset = v.offset → (r u).map offset = (r v).map offset :=
      fun u hu v hv => hr u (by simp [hu]) v (by simp [hv])
    by_cases ht : dropped.contains t.offset = true
    · have hnil : unseen seen (r t) = [] := unseen_eq_nil (hd t (by simp) ht)
      rw [unseen_cons_of_seen ht, List.flatMap_cons, unseen_append, hnil, List.nil_append]
      rw [ih hr' fun u hu => hd u (by simp [hu])]
      refine unseen_congr fun n => ?_
      rw [Offsets.contains_insertAll]
      constructor
      · exact Or.inl
      · rintro (h | ⟨e, he, rfl⟩)
        · exact h
        · exact hd t (by simp) ht e he
    · rw [unseen_cons_of_new ht, List.flatMap_cons, List.flatMap_cons, unseen_append,
        unseen_append]
      refine congrArg (unseen seen (r t) ++ ·) (ih hr' fun u hu hmem e he => ?_)
      rw [Offsets.contains_insertAll]
      simp only [Offsets.contains_insert, Bool.or_eq_true, decide_eq_true_eq] at hmem
      rcases hmem with hmem | hmem
      · exact Or.inl (hd u (by simp [hu]) hmem e he)
      · -- `u` stands where `t` stands, so `t` has led to the offset of `e` already
        have heq := hr u (by simp [hu]) t (by simp) hmem
        have he' : e.offset ∈ (r u).map offset := List.mem_map_of_mem he
        rw [heq] at he'
        obtain ⟨e', he', hoff⟩ := List.mem_map.mp he'
        exact Or.inr ⟨e', he', hoff⟩

theorem distinct_flatMap_distinct {r : Thread → List Thread}
    (hr : ∀ t ∈ ts, ∀ u ∈ ts, t.offset = u.offset → (r t).map offset = (r u).map offset) :
    distinct ((distinct ts).flatMap r) = distinct (ts.flatMap r) :=
  unseen_flatMap_unseen hr (by simp)

end Thread

end Routing.Regex
