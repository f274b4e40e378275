import Mathlib.Data.List.Basic
import Mathlib.Tactic.Common
import Routing.Proofs.Threads

/-!
# Proofs: where readings go

Two facts on every expression. What holds of a thread and is kept by passing a character and by
closing a group holds of all the ends of an expression; so ends are positions of the same text, and
not in front of the beginning. And no expression looks at the groups that have been closed before,
so the offsets of the ends depend on the offset of the beginning alone.
-/

namespace Routing.Regex

/-! ## Properties that a reading keeps -/

namespace Reading

/-- The property passes from every thread to the ends that the reading has from there. -/
def Keeps (r : Reading) (P : Thread → Prop) : Prop :=
  ∀ t, P t → ∀ e ∈ r t, P e

variable {r s : Reading} {P : Thread → Prop}

/-- What two readings keep is kept by one after the other. -/
theorem Keeps.seq (hr : r.Keeps P) (hs : s.Keeps P) : (seq r s).Keeps P := by
  intro t ht e he
  obtain ⟨m, hm, hem⟩ := List.mem_flatMap.mp (Thread.mem_of_mem_distinct he)
  exact hs m (hr t ht m hm) e hem

theorem Keeps.orElse (hr : r.Keeps P) (hs : s.Keeps P) : (orElse r s).Keeps P := by
  intro t ht e he
  rcases List.mem_append.mp (Thread.mem_of_mem_distinct he) with he | he
  · exact hr t ht e he
  · exact hs t ht e he

theorem Keeps.times (hr : r.Keeps P) (n : Nat) : (times r n).Keeps P := by
  induction n with
  | zero =>
    intro t ht e he
    rw [List.mem_singleton.mp he]
    exact ht
  | succ n ih => exact ih.seq hr

/-- Entries are left out of a round, and none is added. -/
theorem mem_of_mem_freshEntries {left entering : Offsets} {round : Round} {entry : Bool × Thread}
    (h : entry ∈ freshEntries left entering round) : entry ∈ round := by
  fun_induction freshEntries left entering round with
  | case1 => exact h
  | case2 left entering t round _ ih => exact List.mem_cons_of_mem _ (ih h)
  | case3 left entering t round _ ih =>
    exact (List.mem_cons.mp h).elim (fun h => by simp [h]) fun h => List.mem_cons_of_mem _ (ih h)
  | case4 left entering t round _ ih => exact List.mem_cons_of_mem _ (ih h)
  | case5 left entering t round _ ih =>
    exact (List.mem_cons.mp h).elim (fun h => by simp [h]) fun h => List.mem_cons_of_mem _ (ih h)

/-- A round of a bounded repetition keeps what its body keeps. -/
theorem Keeps.advance (hr : r.Keeps P) {greedy : Bool} {round : Round} (h : ∀ x ∈ round, P x.2) :
    ∀ x ∈ advance r greedy round, P x.2 := by
  intro x hx
  obtain ⟨⟨entering, t⟩, ht, hx⟩ := List.mem_flatMap.mp (mem_of_mem_freshEntries hx)
  have hP := h _ ht
  cases entering with
  | false =>
    rw [List.mem_singleton.mp hx]
    exact hP
  | true =>
    have hcases : (∃ e ∈ r t, (true, e) = x) ∨ x = (false, t) := by
      cases greedy
      · simpa [or_comm] using hx
      · simpa using hx
    rcases hcases with ⟨e, he, rfl⟩ | rfl
    · exact hr t hP e he
    · exact hP

theorem Keeps.advances (hr : r.Keeps P) {greedy : Bool} (n : Nat) {round : Round}
    (h : ∀ x ∈ round, P x.2) : ∀ x ∈ advances r greedy n round, P x.2 := by
  induction n generalizing round with
  | zero => exact h
  | succ n ih => exact ih (hr.advance h)

theorem Keeps.upTo (hr : r.Keeps P) (greedy : Bool) (n : Nat) : (upTo r greedy n).Keeps P := by
  intro t ht e he
  obtain ⟨x, hx, rfl⟩ := List.mem_map.mp (Thread.mem_of_mem_distinct he)
  exact hr.advances n (by simpa using ht) x hx

/-- The walk of an unbounded repetition keeps what the body keeps, in all that it has found. -/
theorem Keeps.walk (hr : r.Keeps P) {greedy : Bool} (fuel : Nat) {t : Thread} {visit : Visit}
    (ht : P t) (hv : ∀ e ∈ visit.found, P e) : ∀ e ∈ (walk r greedy fuel t visit).found, P e := by
  induction fuel generalizing t visit with
  | zero => exact hv
  | succ fuel ih =>
    have hfold : ∀ (ts : List Thread) (visit : Visit), (∀ e ∈ ts, P e) → (∀ e ∈ visit.found, P e) →
        ∀ e ∈ (ts.foldl (fun visit e => Reading.walk r greedy fuel e visit) visit).found, P e := by
      intro ts
      induction ts with
      | nil => exact fun _ _ hv => hv
      | cons u ts iht =>
        exact fun visit hts hv => iht _ (fun e he => hts e (by simp [he])) (ih (hts u (by simp)) hv)
    unfold Reading.walk Visit.enter
    by_cases hseen : visit.seen.contains t.offset = true
    · rw [if_pos hseen]
      exact hv
    · rw [if_neg hseen]
      cases greedy with
      | true =>
        intro e he
        rcases List.mem_cons.mp he with rfl | he
        · exact ht
        · exact hfold _ _ (hr t ht) (by simpa using hv) e he
      | false => exact hfold _ _ (hr t ht) (by simpa using ⟨ht, hv⟩)

theorem Keeps.star (hr : r.Keeps P) (greedy : Bool) : (star r greedy).Keeps P := by
  intro t ht e he
  exact hr.walk _ ht (by simp) e (List.mem_reverse.mp he)

/-- What holds after a first round and is kept by further ones holds at the end. -/
theorem Keeps.forall_mem_plus (hr : r.Keeps P) (greedy : Bool) {t : Thread}
    (ht : ∀ e ∈ r t, P e) : ∀ e ∈ plus r greedy t, P e := by
  have hfold : ∀ (ts : List Thread) (visit : Visit), (∀ e ∈ ts, P e) → (∀ e ∈ visit.found, P e) →
      ∀ e ∈ (ts.foldl (fun visit e =>
        if e.offset = t.offset then visit.enter greedy e id
        else Reading.walk r greedy (e.rest.length + 1) e visit) visit).found, P e := by
    intro ts
    induction ts with
    | nil => exact fun _ _ hv => hv
    | cons u ts ih =>
      intro visit hts hv
      refine ih _ (fun e he => hts e (by simp [he])) ?_
      beta_reduce
      by_cases hu : u.offset = t.offset
      · rw [if_pos hu]
        unfold Visit.enter
        by_cases hseen : visit.seen.contains u.offset = true
        · rw [if_pos hseen]
          exact hv
        · rw [if_neg hseen]
          cases greedy <;> simpa using ⟨hts u (by simp), hv⟩
      · rw [if_neg hu]
        exact hr.walk _ (hts u (by simp)) hv
  exact fun e he => hfold _ _ ht (by simp) e (List.mem_reverse.mp he)

theorem Keeps.plus (hr : r.Keeps P) (greedy : Bool) : (plus r greedy).Keeps P :=
  fun t ht => hr.forall_mem_plus greedy (hr t ht)

/-- A repetition without an upper bound keeps what its body keeps. -/
theorem Keeps.atLeast (hr : r.Keeps P) (greedy nullable : Bool) (n : Nat) :
    (atLeast r greedy nullable n).Keeps P := by
  cases n with
  | zero =>
    cases nullable with
    | false => exact hr.star greedy
    | true =>
      intro t ht e he
      have he : e ∈ prefer greedy (Reading.plus r greedy t) [t] := Thread.mem_of_mem_distinct he
      have hcases : e ∈ Reading.plus r greedy t ∨ e = t := by
        cases greedy
        · simpa [prefer, or_comm] using he
        · simpa [prefer] using he
      rcases hcases with he | rfl
      · exact hr.plus greedy t ht e he
      · exact ht
  | succ n => exact (hr.times n).seq (hr.plus greedy)

end Reading

/-- What passing a character and closing a group keep is kept by every expression. -/
theorem Node.keeps_ends {P : Thread → Prop}
    (hconsume : ∀ t chars e, P t → t.consume? chars = some e → P e)
    (hclose : ∀ t index start, P t → P (t.close index start)) (node : Node) :
    Reading.Keeps (ends node) P := by
  induction node with
  | empty =>
    intro t ht e he
    rw [List.mem_singleton.mp he]
    exact ht
  | set chars => exact fun t ht e he => hconsume t chars e ht (by simpa [ends] using he)
  | look condition =>
    intro t ht e he
    unfold ends at he
    split_ifs at he with hc
    · rw [List.mem_singleton.mp he]
      exact ht
    · simp at he
  | group index name body ih =>
    intro t ht e he
    obtain ⟨m, hm, rfl⟩ := List.mem_map.mp he
    exact hclose m index t.offset (ih t ht m hm)
  | cat first second ih₁ ih₂ => exact ih₁.seq ih₂
  | alt first second ih₁ ih₂ => exact ih₁.orElse ih₂
  | «repeat» min max greedy body ih =>
    cases max with
    | none => exact ih.atLeast greedy (nullable body) min
    | some max => exact (ih.times min).seq (ih.upTo greedy (max - min))

/-! ## Positions of a text -/

namespace Thread

/-- The thread stands in the text: the characters passed and those ahead make it up. -/
def In (t : Thread) (text : List Char) : Prop :=
  ∃ passed, text = passed ++ t.rest ∧ t.offset = passed.length ∧ t.before = passed.getLast?

variable {t e : Thread} {text : List Char}

theorem in_start (text : List Char) : (⟨0, none, text, []⟩ : Thread).In text :=
  ⟨[], rfl, rfl, rfl⟩

/-- Passing a character moves the thread by one and changes nothing else. -/
theorem consume?_eq_some {chars : CharSet} (h : t.consume? chars = some e) :
    ∃ c cs, t.rest = c :: cs ∧ chars.contains c = true ∧
      e = { t with offset := t.offset + 1, before := some c, rest := cs } := by
  unfold consume? at h
  split at h
  · simp at h
  · rename_i c cs hrest
    split_ifs at h with hc
    exact ⟨c, cs, hrest, hc, (Option.some.inj h).symm⟩

theorem In.consume {chars : CharSet} (ht : t.In text) (h : t.consume? chars = some e) :
    e.In text := by
  obtain ⟨c, cs, hrest, -, rfl⟩ := consume?_eq_some h
  obtain ⟨passed, htext, hoffset, -⟩ := ht
  exact ⟨passed ++ [c], by rw [htext, hrest]; simp, by simp [hoffset], by simp⟩

theorem In.close (ht : t.In text) (index start : Nat) : (t.close index start).In text :=
  ht

/-- Characters ahead are those behind the offset. -/
theorem In.rest_eq (ht : t.In text) : t.rest = text.drop t.offset := by
  obtain ⟨passed, htext, hoffset, -⟩ := ht
  rw [htext, hoffset, List.drop_left]

/-- The character before a thread is the last one that it has passed. -/
theorem In.before_eq (ht : t.In text) : t.before = (text.take t.offset).getLast? := by
  obtain ⟨passed, htext, hoffset, hbefore⟩ := ht
  rw [hbefore, htext, hoffset, List.take_left]

/-- What has been passed and what is ahead make up the length of the text. -/
theorem In.offset_add_length (ht : t.In text) : t.offset + t.rest.length = text.length := by
  obtain ⟨passed, htext, hoffset, -⟩ := ht
  rw [htext, hoffset, List.length_append]

end Thread

/-- The ends of an expression stand in the same text as its beginning. -/
theorem Node.in_of_mem_ends {node : Node} {t e : Thread} {text : List Char} (ht : t.In text)
    (he : e ∈ ends node t) : e.In text :=
  keeps_ends (P := (·.In text)) (fun _ _ _ ht h => ht.consume h) (fun _ i s ht => ht.close i s)
    node t ht e he

/-! ## Closed groups are not looked at -/

namespace Thread

/-- The thread with more groups closed before. -/
def carry (t : Thread) (groups : List (Nat × Span)) : Thread :=
  { t with groups := t.groups ++ groups }

@[simp] theorem carry_offset (t : Thread) (groups : List (Nat × Span)) :
    (t.carry groups).offset = t.offset := rfl

@[simp] theorem carry_before (t : Thread) (groups : List (Nat × Span)) :
    (t.carry groups).before = t.before := rfl

@[simp] theorem carry_rest (t : Thread) (groups : List (Nat × Span)) :
    (t.carry groups).rest = t.rest := rfl

/-- Passing a character does not look at the groups. -/
theorem consume?_carry (t : Thread) (chars : CharSet) (groups : List (Nat × Span)) :
    (t.carry groups).consume? chars = (t.consume? chars).map (·.carry groups) := by
  unfold consume?
  rw [carry_rest]
  split
  · rfl
  · split_ifs <;> rfl

/-- Threads are told apart by their offsets, and so without a look at the groups. -/
theorem distinct_carry (ts : List Thread) (groups : List (Nat × Span)) :
    distinct (ts.map (·.carry groups)) = (distinct ts).map (·.carry groups) :=
  distinct_map fun _ => rfl

end Thread

namespace Reading

/-- The reading does not look at the groups closed before. -/
def Blind (r : Reading) : Prop :=
  ∀ t groups, r (t.carry groups) = (r t).map (·.carry groups)

variable {r s : Reading}

theorem Blind.flatMap (hr : r.Blind) (ts : List Thread) (groups : List (Nat × Span)) :
    (ts.map (·.carry groups)).flatMap r = (ts.flatMap r).map (·.carry groups) := by
  rw [List.flatMap_map, List.map_flatMap]
  exact List.flatMap_congr fun t _ => hr t groups

/-- If neither of two readings looks at the groups, one after the other does not. -/
theorem Blind.seq (hr : r.Blind) (hs : s.Blind) : (seq r s).Blind := by
  intro t groups
  unfold Reading.seq
  rw [hr, hs.flatMap, Thread.distinct_carry]

theorem Blind.orElse (hr : r.Blind) (hs : s.Blind) : (orElse r s).Blind := by
  intro t groups
  unfold Reading.orElse
  rw [hr, hs, ← List.map_append, Thread.distinct_carry]

theorem Blind.times (hr : r.Blind) (n : Nat) : (times r n).Blind := by
  induction n with
  | zero => exact fun _ _ => rfl
  | succ n ih => exact ih.seq hr

/-- The entry with more groups closed before. -/
def carryEntry (groups : List (Nat × Span)) (entry : Bool × Thread) : Bool × Thread :=
  (entry.1, entry.2.carry groups)

/-- The entries of a round are told apart by offsets alone. -/
theorem freshEntries_carry (groups : List (Nat × Span)) (left entering : Offsets) (round : Round) :
    freshEntries left entering (round.map (carryEntry groups)) =
      (freshEntries left entering round).map (carryEntry groups) := by
  fun_induction freshEntries left entering round with
  | case1 => rfl
  | case2 left entering t round h ih =>
    rw [List.map_cons, carryEntry, freshEntries, if_pos (by exact h), ih]
  | case3 left entering t round h ih =>
    rw [List.map_cons, List.map_cons, carryEntry, freshEntries, if_neg (by exact h)]
    exact congrArg _ ih
  | case4 left entering t round h ih =>
    rw [List.map_cons, carryEntry, freshEntries, if_pos (by exact h), ih]
  | case5 left entering t round h ih =>
    rw [List.map_cons, List.map_cons, carryEntry, freshEntries, if_neg (by exact h)]
    exact congrArg _ ih

theorem Blind.advance (hr : r.Blind) (groups : List (Nat × Span)) (greedy : Bool) (round : Round) :
    advance r greedy (round.map (carryEntry groups)) =
      (advance r greedy round).map (carryEntry groups) := by
  unfold Reading.advance
  rw [← freshEntries_carry, List.flatMap_map, List.map_flatMap]
  refine congrArg _ (List.flatMap_congr fun entry _ => ?_)
  obtain ⟨entering, t⟩ := entry
  cases entering with
  | false => rfl
  | true => cases greedy <;> simp [carryEntry, hr t groups]

/-- The rounds of a bounded repetition do not look at the groups. -/
theorem Blind.advances (hr : r.Blind) (groups : List (Nat × Span)) (greedy : Bool) (n : Nat)
    (round : Round) :
    advances r greedy n (round.map (carryEntry groups)) =
      (advances r greedy n round).map (carryEntry groups) := by
  induction n generalizing round with
  | zero => rfl
  | succ n ih => rw [Reading.advances, hr.advance, ih, Reading.advances]

theorem Blind.upTo (hr : r.Blind) (greedy : Bool) (n : Nat) : (upTo r greedy n).Blind := by
  intro t groups
  have h := hr.advances groups greedy n [(true, t)]
  unfold Reading.upTo
  rw [show [(true, t.carry groups)] = [(true, t)].map (carryEntry groups) from rfl, h,
    ← Thread.distinct_carry, List.map_map, List.map_map]
  rfl

/-- The visit with more groups closed before in all that it has found. -/
def Visit.carry (visit : Visit) (groups : List (Nat × Span)) : Visit :=
  { visit with found := visit.found.map (·.carry groups) }

/-- The walk of an unbounded repetition does not look at the groups. -/
theorem Blind.walk (hr : r.Blind) (groups : List (Nat × Span)) (greedy : Bool) (fuel : Nat)
    (t : Thread) (visit : Visit) :
    walk r greedy fuel (t.carry groups) (visit.carry groups) =
      (walk r greedy fuel t visit).carry groups := by
  induction fuel generalizing t visit with
  | zero => rfl
  | succ fuel ih =>
    have hfold : ∀ (ts : List Thread) (visit : Visit),
        (ts.map (·.carry groups)).foldl (fun visit e => Reading.walk r greedy fuel e visit)
          (visit.carry groups) =
        (ts.foldl (fun visit e => Reading.walk r greedy fuel e visit) visit).carry groups := by
      intro ts
      induction ts with
      | nil => exact fun _ => rfl
      | cons u ts iht =>
        intro visit
        rw [List.map_cons, List.foldl_cons, List.foldl_cons, ih, iht]
    unfold Reading.walk Visit.enter
    by_cases hseen : visit.seen.contains t.offset = true
    · rw [if_pos hseen, if_pos (by exact hseen)]
    · rw [if_neg hseen, if_neg (by exact hseen), hr]
      cases greedy with
      | true =>
        have h := hfold (r t) { visit with seen := visit.seen.insert t.offset }
        unfold Visit.carry at h ⊢
        simp only [if_true, Thread.carry_offset, List.map_cons]
        rw [h]
      | false =>
        exact hfold (r t)
          { seen := visit.seen.insert t.offset, found := t :: visit.found }

theorem Blind.star (hr : r.Blind) (greedy : Bool) : (star r greedy).Blind := by
  intro t groups
  have h := hr.walk groups greedy (t.rest.length + 1) t {}
  unfold Reading.star
  rw [List.map_reverse]
  exact congrArg (·.found.reverse) h

theorem Blind.plus (hr : r.Blind) (greedy : Bool) : (plus r greedy).Blind := by
  intro t groups
  have hfold : ∀ (ts : List Thread) (visit : Visit),
      (ts.map (·.carry groups)).foldl (fun visit e =>
        if e.offset = t.offset then visit.enter greedy e id
        else Reading.walk r greedy (e.rest.length + 1) e visit) (visit.carry groups) =
      (ts.foldl (fun visit e =>
        if e.offset = t.offset then visit.enter greedy e id
        else Reading.walk r greedy (e.rest.length + 1) e visit) visit).carry groups := by
    intro ts
    induction ts with
    | nil => exact fun _ => rfl
    | cons u ts ih =>
      intro visit
      rw [List.map_cons, List.foldl_cons, List.foldl_cons, ← ih]
      refine congrArg (List.foldl _ · _) ?_
      by_cases hu : u.offset = t.offset
      · rw [if_pos (by exact hu), if_pos hu]
        unfold Visit.enter
        by_cases hseen : visit.seen.contains u.offset = true
        · rw [if_pos hseen, if_pos (by exact hseen)]
        · rw [if_neg hseen, if_neg (by exact hseen)]
          cases greedy <;> rfl
      · rw [if_neg (by exact hu), if_neg hu]
        exact hr.walk groups greedy _ u visit
  unfold Reading.plus
  rw [hr]
  show _ = List.map _ (List.reverse _)
  rw [List.map_reverse]
  exact congrArg (·.found.reverse) (hfold (r t) {})

/-- A repetition without an upper bound does not look at the groups if its body does not. -/
theorem Blind.atLeast (hr : r.Blind) (greedy nullable : Bool) (n : Nat) :
    (atLeast r greedy nullable n).Blind := by
  cases n with
  | zero =>
    cases nullable with
    | false => exact hr.star greedy
    | true =>
      intro t groups
      show Thread.distinct (prefer greedy (Reading.plus r greedy (t.carry groups)) _) =
        (Thread.distinct (prefer greedy (Reading.plus r greedy t) [t])).map _
      rw [hr.plus greedy, ← Thread.distinct_carry]
      cases greedy <;> simp [prefer]
  | succ n => exact (hr.times n).seq (hr.plus greedy)

end Reading

/-- No expression looks at the groups closed before. -/
theorem Node.blind_ends (node : Node) : Reading.Blind (ends node) := by
  induction node with
  | empty => exact fun _ _ => rfl
  | set chars =>
    intro t groups
    unfold ends
    rw [Thread.consume?_carry]
    cases t.consume? chars <;> rfl
  | look condition =>
    intro t groups
    by_cases hc : condition.holds t.before t.rest.head? = true <;> simp [ends, hc]
  | group index name body ih =>
    intro t groups
    unfold ends
    rw [ih, List.map_map, List.map_map]
    rfl
  | cat first second ih₁ ih₂ => exact ih₁.seq ih₂
  | alt first second ih₁ ih₂ => exact ih₁.orElse ih₂
  | «repeat» min max greedy body ih =>
    cases max with
    | none => exact ih.atLeast greedy (nullable body) min
    | some max => exact (ih.times min).seq (ih.upTo greedy (max - min))

/-- The offsets of the ends depend on the offset of the beginning alone. -/
theorem Reading.Blind.map_offset_congr {r : Reading} (hr : r.Blind) {t u : Thread}
    {text : List Char} (ht : t.In text) (hu : u.In text) (h : t.offset = u.offset) :
    (r t).map Thread.offset = (r u).map Thread.offset := by
  -- at one offset of a text, two threads differ in the groups closed before alone
  set bare : Thread := { t with groups := [] } with hbare
  have htb : t = bare.carry t.groups := rfl
  have hub : u = bare.carry u.groups := by
    obtain ⟨offset, before, rest, groups⟩ := u
    have hrest : t.rest = rest := by rw [ht.rest_eq, h]; exact hu.rest_eq.symm
    have hbefore : t.before = before := by rw [ht.before_eq, h]; exact hu.before_eq.symm
    simp [hbare, Thread.carry, hrest, hbefore, h]
  rw [htb, hub, hr, hr, List.map_map, List.map_map]
  rfl

end Routing.Regex
