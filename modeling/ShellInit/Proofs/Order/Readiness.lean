import Mathlib.Data.List.Dedup
import ShellInit.Proofs.Order.Tally

/-!
# What a step releases

The counters of a run can be forgotten. A source releases those of its targets that no other source
holds back any more, in the order in which it lists them; a target that it lists repeatedly counts
at its last place.
-/

namespace ShellInit

/-- All sources that lead to a node are among the given ones. -/
def Ready (edges : Edges) (sources : List Source) (v : Nat) : Prop :=
  v < edges.length ∧ ∀ source ∈ Source.all edges, v ∈ source.targets edges → source ∈ sources

instance (edges : Edges) (sources : List Source) : DecidablePred (Ready edges sources) :=
  fun v ↦ inferInstanceAs (Decidable (v < edges.length ∧
    ∀ source ∈ Source.all edges, v ∈ source.targets edges → source ∈ sources))

namespace Sorter

namespace Tally

variable {edges : Edges} {gone : List Nat} {s : Sorter} {popped : List Source}

/-- A node is ready when all its edges have been let go of. -/
theorem ready_iff (h : Tally edges gone s) (hnodup : popped.Nodup) (hsub : popped ⊆ s.sources)
    {v : Nat} :
    Ready edges popped v ↔
      v < edges.length ∧ (edges.served popped).count v = heldAtStart edges v := by
  have hall : popped ⊆ Source.all edges := List.Subset.trans hsub h.sources_subset_all
  rw [Ready, and_congr_right_iff]
  intro hv
  exact (Source.count_served_eq_iff hnodup hall hv).symm

/-- A node is released when its last occurrence is let go of, if it is ready then. -/
theorem released_letGo (h : Tally edges gone s) (hnodup : popped.Nodup)
    (hsub : popped ⊆ s.sources) {target : Nat} {targets : List Nat}
    (hgone : gone ++ target :: targets = edges.served popped) :
    (s.letGo target).released = s.released ++
      if target ∉ targets ∧ Ready edges popped target then [target] else [] := by
  cases hheld : s.held[target]? with
  | none =>
    have hge : ¬target < edges.length := by
      rw [← h.size_held, Nat.not_lt]
      exact Array.getElem?_eq_none_iff.mp hheld
    rw [letGo_of_held_none hheld, if_neg fun hnow ↦ hge hnow.2.1, List.append_nil]
  | some count =>
    have hlt : target < edges.length := h.size_held ▸ (Array.getElem?_eq_some_iff.mp hheld).1
    have hfirst : (gone ++ [target]) <+: edges.served popped := ⟨targets, by simpa using hgone⟩
    have hpos := h.held_pos hnodup hsub hfirst hheld
    have hold := h.held_add_count target count hheld
    have hle := Source.count_served_le hnodup
      (List.Subset.trans hsub h.sources_subset_all) hlt
    have hserved : (edges.served popped).count target =
        gone.count target + targets.count target + 1 := by
      rw [← hgone, List.count_append, List.count_cons_self, Nat.add_assoc]
    -- The counter tells how many occurrences are still to come, here or from other sources.
    have hlast : (target ∉ targets ∧ Ready edges popped target) ↔ count ≤ 1 := by
      rw [h.ready_iff hnodup hsub, ← List.count_eq_zero]
      omega
    rcases Nat.lt_or_ge 1 count with hcount | hcount
    · rw [letGo_of_one_lt hheld hcount, if_neg, List.append_nil]
      rw [hlast, Nat.not_le]
      exact hcount
    · rw [letGo_of_le_one hheld hcount, if_pos]
      exact hlast.mpr hcount

/-- Of the targets that are let go of, those are released that are ready at the end. -/
theorem released_foldl_letGo (h : Tally edges gone s) (hnodup : popped.Nodup)
    (hsub : popped ⊆ s.sources) {targets : List Nat}
    (hgone : gone ++ targets = edges.served popped) :
    (targets.foldl Sorter.letGo s).released =
      s.released ++ targets.dedup.filter (Ready edges popped) := by
  induction targets generalizing s gone with
  | nil => simp
  | cons target targets ih =>
    have hfirst : (gone ++ [target]) <+: edges.served popped := ⟨targets, by simpa using hgone⟩
    have hsub' : popped ⊆ (s.letGo target).sources :=
      List.Subset.trans hsub (sources_subset_letGo s target)
    have hrest := ih (h.letGo hnodup hsub hfirst) hsub' (by simpa using hgone)
    rw [List.foldl_cons, hrest, h.released_letGo hnodup hsub hgone, List.append_assoc]
    by_cases hmem : target ∈ targets
    · simp [List.dedup_cons_of_mem hmem, hmem]
    · by_cases hready : Ready edges popped target
      · simp [List.dedup_cons_of_notMem hmem, hmem, hready]
      · simp [List.dedup_cons_of_notMem hmem, hready]

end Tally

/-! ## Runs -/

theorem nodup_popped (edges : Edges) (n : Nat) : (popped edges n).Nodup :=
  (tally_after edges n).nodup_sources.sublist (List.take_sublist _ _)

/-- Released are the nodes all sources of which have left the queue. -/
theorem mem_released_after_iff {edges : Edges} {n v : Nat} :
    v ∈ (after edges n).released ↔ Ready edges (popped edges n) v := by
  have h := tally_after edges n
  rw [h.mem_released_iff, h.ready_iff (nodup_popped edges n) (List.take_subset _ _)]

/-- A step releases, in their order, the targets of its source that are then ready. -/
theorem released_after_succ {edges : Edges} {n : Nat} {source : Source} {queue : List Source}
    (hqueue : (after edges n).queue = source :: queue) :
    (after edges (n + 1)).released = (after edges n).released ++
      (source.targets edges).dedup.filter (Ready edges (popped edges (n + 1))) := by
  have hnodup := nodup_popped edges (n + 1)
  have hsub := (isPrefix_popped_concat hqueue).subset
  have hgone : edges.served (popped edges n) ++ source.targets edges =
      edges.served (popped edges n ++ [source]) := by
    simp [Edges.served]
  rw [popped_succ_of_queue_cons hqueue] at hnodup ⊢
  rw [after, step_of_queue_cons edges hqueue]
  exact ((tally_after edges n).withQueue queue).released_foldl_letGo hnodup hsub hgone

theorem node_mem_popped_iff {edges : Edges} {n v : Nat} :
    .node v ∈ popped edges (n + 1) ↔ v ∈ (after edges (n + 1)).released.take n := by
  simp [popped, sources, ← List.map_take]

/-- What points to a node leaves the queue before it. -/
theorem node_mem_popped_of_mem_targets {edges : Edges} {n u v : Nat}
    (hv : .node v ∈ popped edges n) (hu : v ∈ (Source.node u).targets edges) :
    .node u ∈ popped edges n := by
  cases n with
  | zero => simp [popped] at hv
  | succ n =>
    rw [node_mem_popped_iff] at hv ⊢
    obtain ⟨first, rest, hsplit⟩ := List.append_of_mem hv
    have hreleased : (after edges (n + 1)).released =
        first ++ v :: (rest ++ (after edges (n + 1)).released.drop n) := by
      rw [← List.cons_append, ← List.append_assoc, ← hsplit, List.take_append_drop]
    rw [hsplit]
    exact List.mem_append_left _ ((tally_after edges (n + 1)).preceded _ v _ hreleased u hu)

end Sorter

end ShellInit
