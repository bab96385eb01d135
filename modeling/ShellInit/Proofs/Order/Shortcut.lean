import ShellInit.Proofs.Order.Readiness
import ShellInit.Proofs.Order.Release

/-!
# Shortcuts do not change the order

An edge from the beginning to the end of a path holds nothing back that the path does not hold back
longer: when the last node of the path before its end lets go, the beginning has done so before. So
runs with and without such edges release the same nodes step by step.
-/

open Relation

namespace ShellInit

/-- Each edge of the second graph is an edge or leads along a path of the first, the edges of which
are kept in their order. -/
structure AddsShortcuts (edges edges' : Edges) : Prop where
  length_eq : edges'.length = edges.length
  filter_targets : ∀ u,
    ((Source.node u).targets edges').filter (· ∈ (Source.node u).targets edges) =
      (Source.node u).targets edges
  path : ∀ u v, IsEdge edges' u v → TransGen (IsEdge edges) u v

theorem dedup_filter {α : Type*} [DecidableEq α] (p : α → Bool) (l : List α) :
    (l.filter p).dedup = l.dedup.filter p := by
  induction l with
  | nil => rfl
  | cons a l ih =>
    by_cases hmem : a ∈ l
    · cases hp : p a <;> simp [hp, hmem, ih]
    · cases hp : p a <;> simp [hp, hmem, ih]

namespace Sorter

/-- What leads to a node leaves the queue before it. -/
theorem node_mem_popped_of_transGen {edges : Edges} {n u v : Nat} (hv : .node v ∈ popped edges n)
    (hpath : TransGen (IsEdge edges) u v) : .node u ∈ popped edges n := by
  induction hpath using TransGen.head_induction_on with
  | single hedge => exact node_mem_popped_of_mem_targets hv hedge.2
  | head hedge _ ih => exact node_mem_popped_of_mem_targets ih hedge.2

/-- What leads to a ready node has left the queue. -/
theorem node_mem_popped_of_ready {edges : Edges} {n u v : Nat}
    (hready : Ready edges (popped edges n) v) (hpath : TransGen (IsEdge edges) u v) :
    .node u ∈ popped edges n := by
  obtain ⟨w, huw, hedge⟩ := TransGen.tail'_iff.mp hpath
  have hw : .node w ∈ popped edges n :=
    hready.2 _ (Source.node_mem_all.mpr hedge.left_lt) hedge.2
  rcases Relation.reflTransGen_iff_eq_or_transGen.mp huw with rfl | hpath
  · exact hw
  · exact node_mem_popped_of_transGen hw hpath

end Sorter

namespace AddsShortcuts

open Sorter

variable {edges edges' : Edges}

theorem targets_subset (h : AddsShortcuts edges edges') (source : Source) :
    source.targets edges ⊆ source.targets edges' := by
  cases source with
  | start => simp [Source.targets, h.length_eq]
  | node u =>
    rw [← h.filter_targets u]
    exact List.filter_subset_self _

/-- Shortcuts make no node wait longer. -/
theorem ready_iff (h : AddsShortcuts edges edges') (n v : Nat) :
    Ready edges' (popped edges n) v ↔ Ready edges (popped edges n) v := by
  have hall : Source.all edges' = Source.all edges := by rw [Source.all, Source.all, h.length_eq]
  constructor
  · rintro ⟨hv, hready⟩
    refine ⟨h.length_eq ▸ hv, ?_⟩
    intro source hsource htarget
    exact hready source (hall ▸ hsource) (h.targets_subset source htarget)
  · intro hready
    refine ⟨h.length_eq ▸ hready.1, ?_⟩
    intro source hsource htarget
    cases source with
    | start =>
      refine hready.2 _ (hall ▸ hsource) ?_
      simpa [Source.targets] using hready.1
    | node u =>
      exact node_mem_popped_of_ready hready (h.path u v ⟨h.length_eq ▸ hready.1, htarget⟩)

/-- The end of a shortcut is not ready when only its beginning lets go. -/
theorem mem_targets_of_ready (h : AddsShortcuts edges edges') {n p v : Nat}
    (hpopped : popped edges (n + 1) = popped edges n ++ [.node p])
    (hready : Ready edges (popped edges (n + 1)) v)
    (htarget : v ∈ (Source.node p).targets edges') : v ∈ (Source.node p).targets edges := by
  have hpath := h.path p v ⟨h.length_eq ▸ hready.1, htarget⟩
  obtain ⟨w, hpw, hedge⟩ := TransGen.tail'_iff.mp hpath
  rcases Relation.reflTransGen_iff_eq_or_transGen.mp hpw with rfl | hpath
  · exact hedge.2
  · have hw := hready.2 _ (Source.node_mem_all.mpr hedge.left_lt) hedge.2
    have hnodup := nodup_popped edges (n + 1)
    rw [hpopped] at hw hnodup
    rcases List.mem_append.mp hw with hw | hw
    · -- The path from `p` goes on behind `w`, so `p` would have left the queue twice.
      have hp := node_mem_popped_of_transGen hw hpath
      exact absurd List.mem_cons_self (List.disjoint_of_nodup_append hnodup hp)
    · obtain rfl : w = p := by simpa using hw
      exact hedge.2

/-- The same targets are ready behind a source, with shortcuts or without. -/
theorem filter_ready_targets (h : AddsShortcuts edges edges') {n : Nat} {source : Source}
    (hpopped : popped edges (n + 1) = popped edges n ++ [source]) :
    (source.targets edges').dedup.filter (Ready edges (popped edges (n + 1))) =
      (source.targets edges).dedup.filter (Ready edges (popped edges (n + 1))) := by
  cases source with
  | start => rw [Source.targets, Source.targets, h.length_eq]
  | node p =>
    rw [← h.filter_targets p, dedup_filter, List.filter_filter]
    apply List.filter_congr
    intro v hv
    rw [List.mem_dedup] at hv
    have htarget := h.mem_targets_of_ready hpopped (v := v)
    by_cases hready : Ready edges (popped edges (n + 1)) v
    · simp [hready, htarget hready hv]
    · simp [hready]

theorem released_after (h : AddsShortcuts edges edges') (n : Nat) :
    (after edges' n).released = (after edges n).released := by
  induction n with
  | zero => rfl
  | succ n ih =>
    have hqueue : (after edges' n).queue = (after edges n).queue := by
      rw [queue_after, queue_after, sources, sources, ih]
    have hpopped : popped edges' n = popped edges n := by
      rw [popped, popped, sources, sources, ih]
    cases hnext : (after edges n).queue with
    | nil =>
      have hnext' : (after edges' n).queue = [] := hqueue.trans hnext
      rw [after, after, step_of_queue_nil edges hnext, step_of_queue_nil edges' hnext', ih]
    | cons source queue =>
      have hnext' : (after edges' n).queue = source :: queue := hqueue.trans hnext
      have hpopped' : popped edges' (n + 1) = popped edges (n + 1) := by
        rw [popped_succ_of_queue_cons hnext', popped_succ_of_queue_cons hnext, hpopped]
      calc
        _ = (after edges' n).released ++
              (source.targets edges').dedup.filter (Ready edges' (popped edges' (n + 1))) :=
          released_after_succ hnext'
        _ = (after edges n).released ++
              (source.targets edges').dedup.filter (Ready edges (popped edges (n + 1))) := by
          simp only [ih, hpopped', h.ready_iff]
        _ = (after edges n).released ++
              (source.targets edges).dedup.filter (Ready edges (popped edges (n + 1))) := by
          rw [h.filter_ready_targets (popped_succ_of_queue_cons hnext)]
        _ = _ := (released_after_succ hnext).symm

/-- Shortcuts do not change the order of release. -/
theorem releaseOrder_eq (h : AddsShortcuts edges edges') :
    releaseOrder edges' = releaseOrder edges := by
  rw [releaseOrder, releaseOrder, h.length_eq, h.released_after]

end AddsShortcuts

end ShellInit
