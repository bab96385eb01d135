import ShellInit.Proofs.Order.Readiness
import ShellInit.Proofs.Order.Release

/-!
# Which node is released first

A part of a run releases the beginning of what the whole run releases. So the one of two nodes comes
first all of whose sources let go before one of the other's does, and those to which only the start
leads come before all others. That `u` stands before `v` in an order is written as
`[u, v] <+ order`.
-/

open scoped List

namespace ShellInit

/-! ## Standing before -/

section Before

variable {α : Type*} [BEq α] [LawfulBEq α] {l : List α} {a b : α}

theorem idxOf_lt_idxOf_of_pair_sublist (hnodup : l.Nodup) (h : [a, b] <+ l) :
    l.idxOf a < l.idxOf b := by
  have hpairwise : l.Pairwise fun a b ↦ l.idxOf a < l.idxOf b := by
    rw [List.pairwise_iff_getElem]
    intro i j hi hj hlt
    rwa [hnodup.idxOf_getElem, hnodup.idxOf_getElem]
  exact List.pairwise_iff_forall_sublist.mp hpairwise h

theorem pair_sublist_of_idxOf_lt (hb : b ∈ l) (h : l.idxOf a < l.idxOf b) : [a, b] <+ l := by
  have hidx := List.idxOf_lt_length_of_mem hb
  have hfirst : a ∈ l.take (l.idxOf b) := by
    rw [List.mem_take_iff_getElem]
    exact ⟨l.idxOf a, by omega, List.getElem_idxOf _⟩
  have hrest : b ∈ l.drop (l.idxOf b) := by
    rw [List.drop_eq_getElem_cons hidx, List.getElem_idxOf]
    exact List.mem_cons_self
  have hpair := (List.singleton_sublist.mpr hfirst).append (List.singleton_sublist.mpr hrest)
  rwa [List.take_append_drop] at hpair

theorem mem_of_pair_sublist {before after : List α} (hnodup : (before ++ b :: after).Nodup)
    (h : [a, b] <+ before ++ b :: after) : a ∈ before := by
  by_contra ha
  have hb : b ∉ before := fun hb ↦
    List.disjoint_of_nodup_append hnodup hb List.mem_cons_self
  have hlt := idxOf_lt_idxOf_of_pair_sublist hnodup h
  rw [List.idxOf_append_of_notMem ha, List.idxOf_append_of_notMem hb, List.idxOf_cons_self] at hlt
  omega

end Before

namespace Sorter

variable {edges : Edges} {n u v : Nat}

/-! ## Prefixes of a run -/

/-- A step adds to the end of what has been released. -/
theorem released_after_prefix_succ (edges : Edges) (n : Nat) :
    (after edges n).released <+: (after edges (n + 1)).released := by
  cases hqueue : (after edges n).queue with
  | nil => rw [after, step_of_queue_nil edges hqueue]
  | cons source queue =>
    rw [released_after_succ hqueue]
    exact List.prefix_append _ _

/-- What a part of a run has released is the beginning of what the whole run releases. -/
theorem released_after_prefix_releaseOrder (edges : Edges) (n : Nat) :
    (after edges n).released <+: releaseOrder edges := by
  have hmono {m : Nat} (hle : n ≤ m) : (after edges n).released <+: (after edges m).released := by
    induction hle with
    | refl => exact List.prefix_rfl
    | step _ ih => exact ih.trans (released_after_prefix_succ edges _)
  rcases Nat.le_total n (edges.length + 1) with hle | hle
  · exact hmono hle
  · rw [after_eq_of_queue_nil (queue_after_length edges) hle, releaseOrder]

/-- Sources leave the queue in the order in which they are released. -/
theorem popped_eq_take (edges : Edges) (n : Nat) :
    popped edges n = (Source.inOrder edges).take n := by
  cases hqueue : (after edges n).queue with
  | nil => rw [popped, sources, released_eq_releaseOrder hqueue, Source.inOrder]
  | cons source queue =>
    have hlength : n < (after edges n).sources.length := by
      rw [queue_after] at hqueue
      exact List.length_lt_of_drop_ne_nil (by simp [hqueue])
    obtain ⟨rest, hrest⟩ := released_after_prefix_releaseOrder edges n
    have hsources : Source.inOrder edges = (after edges n).sources ++ rest.map .node := by
      rw [Source.inOrder, ← hrest, List.map_append]
      rfl
    rw [popped, hsources, List.take_append_of_le_length (Nat.le_of_lt hlength)]

/-- What is released up to a step stands before what is released later. -/
theorem pair_sublist_of_released_after (hu : u ∈ (after edges n).released)
    (hv : v ∈ releaseOrder edges) (hlater : v ∉ (after edges n).released) :
    [u, v] <+ releaseOrder edges := by
  obtain ⟨rest, hrest⟩ := released_after_prefix_releaseOrder edges n
  rw [← hrest] at hv ⊢
  have hv' : v ∈ rest := (List.mem_append.mp hv).resolve_left hlater
  exact (List.singleton_sublist.mpr hu).append (List.singleton_sublist.mpr hv')

end Sorter

open Sorter

variable {edges : Edges} {u v : Nat}

/-- The one of two nodes comes first all of whose predecessors come before one of the other's. -/
theorem pair_sublist_releaseOrder_of_before {before after : List Nat} {k : Nat}
    (hsplit : releaseOrder edges = before ++ k :: after) (hu : u < edges.length)
    (hbefore : ∀ w, IsEdge edges w u → w ∈ before) (hv : v ∈ releaseOrder edges)
    (hedge : IsEdge edges k v) : [u, v] <+ releaseOrder edges := by
  have hpopped : popped edges (before.length + 1) = .start :: before.map .node := by
    rw [popped_eq_take, Source.inOrder, hsplit]
    simp
  -- When it is the turn of `k`, all that leads to `u` has let go, and `v` still waits for `k`.
  apply pair_sublist_of_released_after (n := before.length + 1) _ hv
  · rw [mem_released_after_iff, hpopped]
    intro hready
    have hmem := hready.2 (.node k) (Source.node_mem_all.mpr hedge.left_lt) hedge.2
    simp [not_mem_before hsplit] at hmem
  · rw [mem_released_after_iff, hpopped]
    refine ⟨hu, ?_⟩
    intro source _ htarget
    cases source with
    | start => exact List.mem_cons_self
    | node w => simp [hbefore w ⟨hu, htarget⟩]

/-- At the start, those nodes are ready to which no edge leads. -/
theorem ready_start_iff : Ready edges [.start] v ↔ v < edges.length ∧ ∀ u, ¬IsEdge edges u v := by
  rw [Ready, and_congr_right_iff]
  intro hv
  constructor
  · intro hsources u hedge
    have hmem := hsources (.node u) (Source.node_mem_all.mpr hedge.left_lt) hedge.2
    simp at hmem
  · intro hnone source _ htarget
    cases source with
    | start => exact List.mem_cons_self
    | node u => exact absurd ⟨hv, htarget⟩ (hnone u)

/-- The nodes without predecessors come first, in the order of their numbers. -/
theorem exists_releaseOrder_eq_append (edges : Edges) :
    ∃ rest, releaseOrder edges =
        (List.range edges.length).filter (Ready edges [.start]) ++ rest ∧
      ∀ v ∈ rest, ¬Ready edges [.start] v := by
  have hqueue : (after edges 0).queue = .start :: [] := rfl
  have hpopped : popped edges (0 + 1) = [.start] := by
    rw [popped_eq_take]
    rfl
  have hreleased := released_after_succ hqueue
  rw [hpopped, Source.targets, List.nodup_range.dedup] at hreleased
  obtain ⟨rest, hrest⟩ := released_after_prefix_releaseOrder edges (0 + 1)
  have hnodup := nodup_releaseOrder edges
  refine ⟨rest, ?_, ?_⟩
  · rw [← hrest, hreleased]
    rfl
  · intro v hv hready
    rw [← hrest] at hnodup
    rw [← hpopped, ← mem_released_after_iff] at hready
    exact List.disjoint_of_nodup_append hnodup hready hv

end ShellInit
