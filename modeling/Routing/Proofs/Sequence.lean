import Routing.Proofs.Positions

/-!
# Proofs: expressions one after the other

A sequence drops threads at every step. `Node.chain` is the same sequence without dropping any; its
first thread is the same. An expression that begins with `^` can only match from the beginning of
the text on, so its search comes down to one look at the first thread of a chain.
-/

namespace Routing.Regex

namespace Node

/-- The ends of the expressions one after the other, repeated offsets included. -/
def chain : List Node → Reading
  | [] => fun t => [t]
  | node :: nodes => fun t => (ends node t).flatMap (chain nodes)

variable {nodes nodes' : List Node} {t e : Thread} {text : List Char}

theorem chain_cons (node : Node) (nodes : List Node) (t : Thread) :
    chain (node :: nodes) t = (ends node t).flatMap (chain nodes) := rfl

theorem chain_append (nodes nodes' : List Node) (t : Thread) :
    chain (nodes ++ nodes') t = (chain nodes t).flatMap (chain nodes') := by
  induction nodes generalizing t with
  | nil => simp [chain]
  | cons node nodes ih =>
    rw [List.cons_append, chain, chain, List.flatMap_assoc]
    exact List.flatMap_congr fun e _ => ih e

theorem in_of_mem_chain (ht : t.In text) (he : e ∈ chain nodes t) : e.In text := by
  induction nodes generalizing t with
  | nil =>
    rw [List.mem_singleton.mp he]
    exact ht
  | cons node nodes ih =>
    obtain ⟨m, hm, he⟩ := List.mem_flatMap.mp he
    exact ih (in_of_mem_ends ht hm) he

theorem blind_chain (nodes : List Node) : Reading.Blind (chain nodes) := by
  induction nodes with
  | nil => exact fun _ _ => rfl
  | cons node nodes ih =>
    intro t groups
    show (ends node (t.carry groups)).flatMap (chain nodes) = _
    rw [blind_ends, ih.flatMap]
    rfl

/-- Threads may be dropped on the way or at the end. -/
theorem distinct_ends_foldl_cat (ht : t.In text) (first : Node) (nodes : List Node) :
    Thread.distinct (ends (nodes.foldl cat first) t) =
      Thread.distinct ((ends first t).flatMap (chain nodes)) := by
  induction nodes generalizing first with
  | nil => simp [chain]
  | cons node nodes ih =>
    -- the ends of `first` and `node` may repeat an offset; what follows them then repeats it too
    have huniform : ∀ u ∈ (ends first t).flatMap (ends node),
        ∀ v ∈ (ends first t).flatMap (ends node), u.offset = v.offset →
        (chain nodes u).map Thread.offset = (chain nodes v).map Thread.offset := by
      have hin : ∀ u ∈ (ends first t).flatMap (ends node), u.In text := by
        intro u hu
        obtain ⟨m, hm, hu⟩ := List.mem_flatMap.mp hu
        exact in_of_mem_ends (in_of_mem_ends ht hm) hu
      exact fun u hu v hv h => (blind_chain nodes).map_offset_congr (hin u hu) (hin v hv) h
    calc Thread.distinct (ends (nodes.foldl cat (first.cat node)) t)
        = Thread.distinct ((ends (first.cat node) t).flatMap (chain nodes)) := ih _
      _ = Thread.distinct (((ends first t).flatMap (ends node)).flatMap (chain nodes)) :=
          Thread.distinct_flatMap_distinct huniform
      _ = Thread.distinct ((ends first t).flatMap (chain (node :: nodes))) := by
          rw [List.flatMap_assoc]
          rfl

/-- What is preferred among the ends of a sequence is preferred in the chain. -/
theorem head?_ends_foldl_cat (ht : t.In text) (first : Node) (nodes : List Node) :
    (ends (nodes.foldl cat first) t).head? = ((ends first t).flatMap (chain nodes)).head? := by
  rw [← Thread.head?_distinct, distinct_ends_foldl_cat ht, Thread.head?_distinct]

/-! ## Expressions that begin with `^` -/

theorem ends_foldl_cat_eq_nil {first : Node} (h : ends first t = []) (nodes : List Node) :
    ends (nodes.foldl cat first) t = [] := by
  induction nodes generalizing first with
  | nil => exact h
  | cons node nodes ih =>
    refine ih ?_
    show Thread.distinct ((ends first t).flatMap (ends node)) = []
    rw [h]
    rfl

/-- Behind the beginning of the text there is nothing to find. -/
theorem searchFrom_anchored (nodes : List Node) (offset : Nat) (c : Char) (rest : List Char) :
    searchFrom (nodes.foldl cat (look .textStart)) offset (some c) rest = none := by
  have hnil : ∀ (offset : Nat) (c : Char) (rest : List Char),
      ends (nodes.foldl cat (look .textStart)) ⟨offset, some c, rest, []⟩ = [] :=
    fun _ _ _ => ends_foldl_cat_eq_nil rfl nodes
  induction rest generalizing offset c with
  | nil => rw [searchFrom, hnil]
  | cons d rest ih =>
    rw [searchFrom, hnil]
    exact ih (offset + 1) d

/-- The match of an expression that begins with `^` is the first thread of its chain. -/
theorem search_anchored (nodes : List Node) (text : List Char) :
    search (nodes.foldl cat (look .textStart)) text =
      (chain nodes ⟨0, none, text, []⟩).head?.map fun e => ⟨⟨0, e.offset⟩, e.groups⟩ := by
  have hhead := head?_ends_foldl_cat (Thread.in_start text) (look .textStart) nodes
  have hstart : ends (look .textStart) ⟨0, none, text, []⟩ = [⟨0, none, text, []⟩] := rfl
  rw [hstart, List.flatMap_singleton] at hhead
  rw [← hhead, search]
  cases hends : ends (nodes.foldl cat (look .textStart)) ⟨0, none, text, []⟩ with
  | cons e es => cases text <;> rw [searchFrom, hends] <;> rfl
  | nil =>
    cases text with
    | nil => rw [searchFrom, hends]; rfl
    | cons c cs =>
      rw [searchFrom, hends]
      exact searchFrom_anchored nodes 1 c cs

/-- The end of the text is where nothing is left. -/
theorem chain_textEnd (e : Thread) :
    chain [look .textEnd] e = if e.rest = [] then [e] else [] := by
  cases hrest : e.rest <;> simp [chain, ends, Look.holds, hrest]

/-- A match of an expression between `^` and `$` covers the text. -/
theorem span_search_anchored {text : List Char} {found : Match}
    (h : search ((nodes ++ [look .textEnd]).foldl cat (look .textStart)) text = some found) :
    found.span = ⟨0, text.length⟩ := by
  rw [search_anchored, Option.map_eq_some_iff] at h
  obtain ⟨e, he, rfl⟩ := h
  have he := List.mem_of_mem_head? he
  rw [chain_append] at he
  obtain ⟨m, hm, he⟩ := List.mem_flatMap.mp he
  have hin := in_of_mem_chain (Thread.in_start text) hm
  obtain ⟨hend, rfl⟩ : m.rest = [] ∧ e = m := by
    rw [chain_textEnd] at he
    split_ifs at he with hrest
    · exact ⟨hrest, List.mem_singleton.mp he⟩
    · simp at he
  have hlength := hin.offset_add_length
  rw [hend, List.length_nil, Nat.add_zero] at hlength
  rw [hlength]

end Node

end Routing.Regex
