import Mathlib.Data.List.Perm.Subperm
import Mathlib.Data.List.Nodup
import Mathlib.Data.List.Flatten
import ShellInit.Order

/-!
# What a run has let go of

Every counter of a run is tied to the targets let go of so far: what still holds a node back are the
occurrences that are still to come. A source is taken from the queue at most once, so no counter is
ever taken below zero, a node is released by the last of its occurrences, and all nodes that point
to it have been released before.
-/

namespace ShellInit

/-! ## Counting edges -/

/-- The edges that hold a node back before a run: those of the graph, and the one of the start. -/
def heldAtStart (edges : Edges) (v : Nat) : Nat := edges.flatten.count v + 1

/-- The targets of a list of sources, in the order in which they are let go of. -/
abbrev Edges.served (edges : Edges) (sources : List Source) : List Nat :=
  sources.flatMap (Source.targets edges)

namespace Source

def all (edges : Edges) : List Source := .start :: (List.range edges.length).map .node

theorem node_injective : Function.Injective Source.node := by
  intro i j h
  exact Source.node.inj h

theorem node_mem_all {edges : Edges} {u : Nat} : .node u ∈ all edges ↔ u < edges.length := by
  simp [all]

theorem nodup_all (edges : Edges) : (all edges).Nodup := by
  refine List.nodup_cons.mpr ⟨by simp, ?_⟩
  exact List.Nodup.map node_injective List.nodup_range

theorem lt_of_mem_targets_node {edges : Edges} {u v : Nat} (h : v ∈ (node u).targets edges) :
    u < edges.length := by
  by_contra hge
  simp [targets, List.getElem?_eq_none (Nat.le_of_not_lt hge)] at h

theorem flatMap_range_targets (edges : Edges) :
    (List.range edges.length).flatMap (fun u ↦ (node u).targets edges) = edges.flatten := by
  have hmap : (List.range edges.length).map (fun u ↦ (node u).targets edges) = edges := by
    apply List.ext_getElem
    · simp
    · intro i hi hi'
      simp [targets, hi']
  rw [List.flatMap_def, hmap]

theorem served_all (edges : Edges) :
    edges.served (all edges) = List.range edges.length ++ edges.flatten := by
  unfold Edges.served all
  rw [List.flatMap_cons, List.flatMap_map, flatMap_range_targets]
  rfl

/-- All sources together let go of each edge. -/
theorem count_served_all (edges : Edges) {v : Nat} (hv : v < edges.length) :
    (edges.served (all edges)).count v = heldAtStart edges v := by
  have hstart : (List.range edges.length).count v = 1 :=
    List.count_eq_one_of_mem List.nodup_range (List.mem_range.mpr hv)
  rw [served_all, List.count_append, hstart, heldAtStart]
  omega

/-- Distinct sources and those left out make up all edges into a node. -/
theorem count_served_add_count_rest {edges : Edges} {sources : List Source}
    (hnodup : sources.Nodup) (hsub : sources ⊆ all edges) {v : Nat} (hv : v < edges.length) :
    (edges.served sources).count v +
      (edges.served ((all edges).filter (· ∉ sources))).count v = heldAtStart edges v := by
  have hdisjoint : sources.Disjoint ((all edges).filter (· ∉ sources)) := by
    intro source hmem hrest
    simpa [hmem] using List.of_mem_filter hrest
  have hperm : (sources ++ (all edges).filter (· ∉ sources)).Perm (all edges) := by
    rw [List.perm_ext_iff_of_nodup (hnodup.append ((nodup_all edges).filter _) hdisjoint)
      (nodup_all edges)]
    intro source
    have hmem : source ∈ sources → source ∈ all edges := fun h ↦ hsub h
    simp only [List.mem_append, List.mem_filter, decide_eq_true_eq]
    tauto
  calc
    _ = (edges.served (sources ++ (all edges).filter (· ∉ sources))).count v := by
      rw [Edges.served, Edges.served, Edges.served, List.flatMap_append, List.count_append]
    _ = (edges.served (all edges)).count v := (hperm.flatMap_right _).count_eq v
    _ = heldAtStart edges v := count_served_all edges hv

theorem count_served_le {edges : Edges} {sources : List Source} (hnodup : sources.Nodup)
    (hsub : sources ⊆ all edges) {v : Nat} (hv : v < edges.length) :
    (edges.served sources).count v ≤ heldAtStart edges v := by
  have h := count_served_add_count_rest hnodup hsub hv
  omega

/-- All edges into a node are served exactly if all sources that lead to it are. -/
theorem count_served_eq_iff {edges : Edges} {sources : List Source} (hnodup : sources.Nodup)
    (hsub : sources ⊆ all edges) {v : Nat} (hv : v < edges.length) :
    (edges.served sources).count v = heldAtStart edges v ↔
      ∀ source ∈ all edges, v ∈ source.targets edges → source ∈ sources := by
  have htotal := count_served_add_count_rest hnodup hsub hv
  have hrest : (edges.served ((all edges).filter (· ∉ sources))).count v = 0 ↔
      ∀ source ∈ all edges, v ∈ source.targets edges → source ∈ sources := by
    rw [List.count_eq_zero, List.mem_flatMap]
    constructor
    · intro h source hmem hv
      by_contra hnot
      exact h ⟨source, List.mem_filter.mpr ⟨hmem, by simpa using hnot⟩, hv⟩
    · rintro h ⟨source, hmem, hv⟩
      obtain ⟨hall, hnot⟩ := List.mem_filter.mp hmem
      simp [h source hall hv] at hnot
  rw [← hrest]
  omega

end Source

namespace Sorter

/-! ## Letting go of one target -/

/-- All that has been in the queue: the start, then the nodes in the order of their release. -/
def sources (s : Sorter) : List Source := .start :: s.released.map .node

theorem node_mem_sources {s : Sorter} {u : Nat} : .node u ∈ s.sources ↔ u ∈ s.released := by
  simp [sources]

theorem letGo_of_held_none {s : Sorter} {target : Nat} (h : s.held[target]? = none) :
    s.letGo target = s := by
  simp [letGo, h]

theorem letGo_of_one_lt {s : Sorter} {target count : Nat} (h : s.held[target]? = some count)
    (hcount : 1 < count) :
    s.letGo target = { s with held := s.held.setIfInBounds target (count - 1) } := by
  have hrest : count - 1 ≠ 0 := by omega
  simp [letGo, h, hrest]

theorem letGo_of_le_one {s : Sorter} {target count : Nat} (h : s.held[target]? = some count)
    (hcount : count ≤ 1) :
    s.letGo target =
      { held := s.held.setIfInBounds target (count - 1)
        queue := s.queue ++ [.node target]
        released := s.released ++ [target] } := by
  have hrest : count - 1 = 0 := by omega
  simp [letGo, h, hrest]

/-- What is released also joins the queue, and nothing else happens to either of them. -/
theorem exists_released_letGo (s : Sorter) (target : Nat) :
    ∃ new : List Nat, (s.letGo target).released = s.released ++ new ∧
      (s.letGo target).queue = s.queue ++ new.map .node := by
  cases hheld : s.held[target]? with
  | none => exact ⟨[], by simp [letGo_of_held_none hheld]⟩
  | some count =>
    rcases Nat.lt_or_ge 1 count with hcount | hcount
    · exact ⟨[], by simp [letGo_of_one_lt hheld hcount]⟩
    · exact ⟨[target], by simp [letGo_of_le_one hheld hcount]⟩

theorem sources_subset_of_released_eq {s s' : Sorter} {new : List Nat}
    (h : s'.released = s.released ++ new) : s.sources ⊆ s'.sources := by
  rw [sources, sources, h, List.map_append, ← List.cons_append]
  exact List.subset_append_left _ _

theorem sources_subset_letGo (s : Sorter) (target : Nat) :
    s.sources ⊆ (s.letGo target).sources := by
  obtain ⟨new, hreleased, _⟩ := exists_released_letGo s target
  exact sources_subset_of_released_eq hreleased

theorem exists_released_foldl_letGo (s : Sorter) (targets : List Nat) :
    ∃ new : List Nat, (targets.foldl letGo s).released = s.released ++ new ∧
      (targets.foldl letGo s).queue = s.queue ++ new.map .node := by
  induction targets generalizing s with
  | nil => exact ⟨[], by simp⟩
  | cons target targets ih =>
    obtain ⟨first, hreleased, hqueue⟩ := exists_released_letGo s target
    obtain ⟨rest, hreleased', hqueue'⟩ := ih (s.letGo target)
    refine ⟨first ++ rest, ?_, ?_⟩
    · rw [List.foldl_cons, hreleased', hreleased, List.append_assoc]
    · rw [List.foldl_cons, hqueue', hqueue, List.map_append, List.append_assoc]

/-- What holds of a run that has let go of `gone`. -/
structure Tally (edges : Edges) (gone : List Nat) (s : Sorter) : Prop where
  /-- Every node has a counter. -/
  size_held : s.held.size = edges.length
  /-- A counter and the occurrences let go of make up the edges into the node. -/
  held_add_count : ∀ v count, s.held[v]? = some count → count + gone.count v = heldAtStart edges v
  /-- Released is what nothing holds back. -/
  mem_released : ∀ v, v ∈ s.released ↔ s.held[v]? = some 0
  nodup_released : s.released.Nodup
  /-- What points to a released node has been released before it. -/
  preceded : ∀ before v after, s.released = before ++ v :: after →
    ∀ u, v ∈ (Source.node u).targets edges → u ∈ before

namespace Tally

variable {edges : Edges} {gone : List Nat} {s : Sorter}

theorem lt_of_mem_released (h : Tally edges gone s) {v : Nat} (hv : v ∈ s.released) :
    v < edges.length := by
  have hheld := (h.mem_released v).mp hv
  obtain ⟨hlt, _⟩ := Array.getElem?_eq_some_iff.mp hheld
  rw [← h.size_held]
  exact hlt

/-- Released are the nodes into which all edges have been let go of. -/
theorem mem_released_iff (h : Tally edges gone s) {v : Nat} :
    v ∈ s.released ↔ v < edges.length ∧ gone.count v = heldAtStart edges v := by
  constructor
  · intro hv
    have hcount := h.held_add_count v 0 ((h.mem_released v).mp hv)
    exact ⟨h.lt_of_mem_released hv, by omega⟩
  · rintro ⟨hv, hgone⟩
    have hheld := Array.getElem?_eq_getElem (h.size_held.symm ▸ hv)
    have hcount := h.held_add_count v _ hheld
    refine (h.mem_released v).mpr (hheld.trans ?_)
    congr 1
    omega

theorem sources_subset_all (h : Tally edges gone s) : s.sources ⊆ Source.all edges := by
  intro source hsource
  cases source with
  | start => simp [Source.all]
  | node u =>
    rw [Source.node_mem_all]
    exact h.lt_of_mem_released (node_mem_sources.mp hsource)

/-- Nothing joins the queue twice. -/
theorem nodup_sources (h : Tally edges gone s) : s.sources.Nodup := by
  refine List.nodup_cons.mpr ⟨by simp, ?_⟩
  exact h.nodup_released.map Source.node_injective

theorem start_run (edges : Edges) : Tally edges [] (start edges) where
  size_held := by simp [start]
  held_add_count v count h := by
    obtain ⟨hlt, hcount⟩ := Array.getElem?_eq_some_iff.mp h
    simp only [start, Array.getElem_ofFn] at hcount
    simp [heldAtStart, ← hcount]
  mem_released v := by
    simp only [start, List.not_mem_nil, false_iff]
    intro h
    obtain ⟨hlt, hcount⟩ := Array.getElem?_eq_some_iff.mp h
    simp at hcount
  nodup_released := by simp [start]
  preceded before v after h := by simp [start] at h

/-- Which sources still wait in the queue does not matter. -/
theorem withQueue (h : Tally edges gone s) (queue : List Source) :
    Tally edges gone { s with queue } :=
  ⟨h.size_held, h.held_add_count, h.mem_released, h.nodup_released, h.preceded⟩

/-- A counter drops with each occurrence, and only there. -/
theorem held_add_count_setIfInBounds (h : Tally edges gone s) {target held : Nat}
    (hheld : s.held[target]? = some held) (hpos : 0 < held) (v count : Nat)
    (hv : (s.held.setIfInBounds target (held - 1))[v]? = some count) :
    count + (gone ++ [target]).count v = heldAtStart edges v := by
  obtain ⟨hlt, _⟩ := Array.getElem?_eq_some_iff.mp hheld
  rw [List.count_append]
  by_cases heq : target = v
  · subst heq
    have hold := h.held_add_count target held hheld
    rw [Array.getElem?_setIfInBounds_self_of_lt hlt] at hv
    simp only [Option.some.injEq] at hv
    simp only [List.count_singleton_self]
    omega
  · rw [Array.getElem?_setIfInBounds_ne heq] at hv
    have hold := h.held_add_count v count hv
    simp only [List.count_singleton, beq_iff_eq, heq, if_false]
    omega

/-- A new count of a node decides whether that node counts as released, and no other. -/
theorem setIfInBounds_eq_zero_iff (h : Tally edges gone s) {target : Nat}
    (hlt : target < s.held.size) (rest v : Nat) :
    (s.held.setIfInBounds target rest)[v]? = some 0 ↔
      if v = target then rest = 0 else v ∈ s.released := by
  split
  case isTrue heq =>
    subst heq
    simp [hlt]
  case isFalse hne =>
    rw [Array.getElem?_setIfInBounds_ne (Ne.symm hne), h.mem_released]

/-- No counter is taken below zero by sources that are out of the queue. -/
theorem held_pos (h : Tally edges gone s) {popped : List Source} (hnodup : popped.Nodup)
    (hsub : popped ⊆ s.sources) {target count : Nat}
    (hgone : (gone ++ [target]) <+: edges.served popped)
    (hheld : s.held[target]? = some count) : 0 < count := by
  have htarget : target < edges.length :=
    h.size_held ▸ (Array.getElem?_eq_some_iff.mp hheld).1
  have hall : popped ⊆ Source.all edges := fun source hmem ↦ h.sources_subset_all (hsub hmem)
  have hle := Source.count_served_le hnodup hall htarget
  have hprefix := hgone.sublist.count_le target
  have hold := h.held_add_count target count hheld
  rw [List.count_append, List.count_singleton_self] at hprefix
  omega

/-- When all occurrences of a node have been let go of, what points to it has been released. -/
theorem mem_released_of_count_eq (h : Tally edges gone s) {popped : List Source}
    (hnodup : popped.Nodup) (hsub : popped ⊆ s.sources) {now : List Nat}
    (hgone : now <+: edges.served popped) {v : Nat} (hv : v < edges.length)
    (hcount : now.count v = heldAtStart edges v) {u : Nat}
    (hu : v ∈ (Source.node u).targets edges) : u ∈ s.released := by
  have hall : popped ⊆ Source.all edges := fun source hmem ↦ h.sources_subset_all (hsub hmem)
  have hserved : (edges.served popped).count v = heldAtStart edges v := by
    have hle := Source.count_served_le hnodup hall hv
    have hprefix := hgone.sublist.count_le v
    omega
  rw [Source.count_served_eq_iff hnodup hall hv] at hserved
  have hu' : .node u ∈ Source.all edges :=
    Source.node_mem_all.mpr (Source.lt_of_mem_targets_node hu)
  exact node_mem_sources.mp (hsub (hserved _ hu' hu))

/-- A node may follow those released so far if all that point to it are among them. -/
theorem preceded_concat (h : Tally edges gone s) {target : Nat}
    (htarget : ∀ u, target ∈ (Source.node u).targets edges → u ∈ s.released)
    (before : List Nat) (v : Nat) (after : List Nat)
    (hsplit : s.released ++ [target] = before ++ v :: after) (u : Nat)
    (hu : v ∈ (Source.node u).targets edges) : u ∈ before := by
  rcases List.eq_nil_or_concat after with rfl | ⟨after, last, rfl⟩
  · obtain ⟨rfl, hv⟩ := List.append_inj' hsplit rfl
    obtain rfl : target = v := by simpa using hv
    exact htarget u hu
  · have hsplit' : s.released ++ [target] = (before ++ v :: after) ++ [last] := by
      simpa using hsplit
    exact h.preceded before v after (List.append_inj' hsplit' rfl).1 u hu

/-- Letting go keeps the tally as long as only sources that are out of the queue let go. -/
theorem letGo (h : Tally edges gone s) {popped : List Source} (hnodup : popped.Nodup)
    (hsub : popped ⊆ s.sources) {target : Nat}
    (hgone : (gone ++ [target]) <+: edges.served popped) :
    Tally edges (gone ++ [target]) (s.letGo target) := by
  cases hheld : s.held[target]? with
  | none =>
    rw [letGo_of_held_none hheld]
    refine ⟨h.size_held, ?_, h.mem_released, h.nodup_released, h.preceded⟩
    intro v count hv
    have hne : target ≠ v := by
      rintro rfl
      simp [hheld] at hv
    simpa [List.count_append, List.count_singleton, hne] using h.held_add_count v count hv
  | some count =>
    have hlt := (Array.getElem?_eq_some_iff.mp hheld).1
    have hpos := h.held_pos hnodup hsub hgone hheld
    have hunreleased : target ∉ s.released := by
      rw [h.mem_released, hheld, Option.some.injEq]
      omega
    have hcounts := h.held_add_count_setIfInBounds hheld hpos
    -- Only the last occurrence releases the node; the others change nothing but its counter.
    rcases Nat.lt_or_ge 1 count with hcount | hcount
    · rw [letGo_of_one_lt hheld hcount]
      refine ⟨by simpa using h.size_held, hcounts, ?_, h.nodup_released, h.preceded⟩
      intro v
      have hrest : count - 1 ≠ 0 := by omega
      rw [h.setIfInBounds_eq_zero_iff hlt]
      by_cases heq : v = target
      · simp [heq, hunreleased, hrest]
      · simp [heq]
    · have hlast : (gone ++ [target]).count target = heldAtStart edges target := by
        have hold := h.held_add_count target count hheld
        rw [List.count_append, List.count_singleton_self]
        omega
      have hpreceded (u : Nat) (hu : target ∈ (Source.node u).targets edges) : u ∈ s.released :=
        h.mem_released_of_count_eq hnodup hsub hgone (h.size_held ▸ hlt) hlast hu
      rw [letGo_of_le_one hheld hcount]
      refine ⟨by simpa using h.size_held, hcounts, ?_, ?_, h.preceded_concat hpreceded⟩
      · intro v
        have hrest : count - 1 = 0 := by omega
        rw [h.setIfInBounds_eq_zero_iff hlt]
        by_cases heq : v = target
        · simp [heq, hrest]
        · simp [heq]
      · exact h.nodup_released.append (List.nodup_singleton target)
          (List.disjoint_singleton.mpr hunreleased)

/-- The tally holds in the middle of a step as well. -/
theorem foldl_letGo (h : Tally edges gone s) {popped : List Source} (hnodup : popped.Nodup)
    (hsub : popped ⊆ s.sources) {targets : List Nat}
    (hgone : (gone ++ targets) <+: edges.served popped) :
    Tally edges (gone ++ targets) (targets.foldl Sorter.letGo s) := by
  induction targets generalizing s gone with
  | nil => simpa using h
  | cons target targets ih =>
    have hfirst : (gone ++ [target]) <+: edges.served popped :=
      List.IsPrefix.trans ⟨targets, by simp⟩ hgone
    have hsub' : popped ⊆ (s.letGo target).sources :=
      List.Subset.trans hsub (sources_subset_letGo s target)
    have hrest := ih (h.letGo hnodup hsub hfirst) hsub' (by simpa using hgone)
    simpa using hrest

end Tally

/-! ## Steps and runs -/

theorem step_of_queue_nil (edges : Edges) {s : Sorter} (h : s.queue = []) : step edges s = s := by
  simp [step, h]

theorem step_of_queue_cons (edges : Edges) {s : Sorter} {source : Source} {queue : List Source}
    (h : s.queue = source :: queue) :
    step edges s = (source.targets edges).foldl letGo { s with queue } := by
  simp [step, h]

/-- A step takes one source from the queue, and adds to its end what it releases. -/
theorem exists_sources_step (edges : Edges) {s : Sorter} {source : Source} {queue : List Source}
    (h : s.queue = source :: queue) :
    ∃ new, (step edges s).sources = s.sources ++ new ∧ (step edges s).queue = queue ++ new := by
  obtain ⟨new, hreleased, hqueue⟩ :=
    exists_released_foldl_letGo { s with queue } (source.targets edges)
  refine ⟨new.map .node, ?_, ?_⟩
  · simp [sources, step_of_queue_cons edges h, hreleased]
  · rw [step_of_queue_cons edges h, hqueue]

/-- The queue is what is left of the sources, of which every step takes one. -/
theorem queue_after (edges : Edges) (n : Nat) :
    (after edges n).queue = (after edges n).sources.drop n := by
  induction n with
  | zero => rfl
  | succ n ih =>
    cases hqueue : (after edges n).queue with
    | nil =>
      rw [hqueue] at ih
      have hlength := List.drop_eq_nil_iff.mp ih.symm
      rw [after, step_of_queue_nil edges hqueue, hqueue, List.drop_eq_nil_of_le (by omega)]
    | cons source queue =>
      obtain ⟨new, hsources, hnew⟩ := exists_sources_step edges hqueue
      rw [hqueue] at ih
      have hlength : n < (after edges n).sources.length :=
        List.length_lt_of_drop_ne_nil (by simp [← ih])
      have hdrop : (after edges n).sources.drop (n + 1) = queue := by
        rw [← List.tail_drop, ← ih, List.tail_cons]
      rw [after, hsources, List.drop_append_of_le_length hlength, hdrop, hnew]

/-- The sources that have left the queue in a number of steps. -/
def popped (edges : Edges) (n : Nat) : List Source := (after edges n).sources.take n

theorem popped_append_queue (edges : Edges) (n : Nat) :
    popped edges n ++ (after edges n).queue = (after edges n).sources := by
  rw [popped, queue_after, List.take_append_drop]

theorem popped_succ_of_queue_nil {edges : Edges} {n : Nat} (h : (after edges n).queue = []) :
    popped edges (n + 1) = popped edges n := by
  rw [queue_after, List.drop_eq_nil_iff] at h
  have hafter : after edges (n + 1) = after edges n := by
    rw [after, step_of_queue_nil edges (by rw [queue_after, List.drop_eq_nil_of_le h])]
  rw [popped, popped, hafter, List.take_of_length_le (by omega), List.take_of_length_le h]

theorem popped_succ_of_queue_cons {edges : Edges} {n : Nat} {source : Source}
    {queue : List Source} (h : (after edges n).queue = source :: queue) :
    popped edges (n + 1) = popped edges n ++ [source] := by
  obtain ⟨new, hsources, _⟩ := exists_sources_step edges h
  have hsplit : (after edges (n + 1)).sources = (popped edges n ++ [source]) ++ (queue ++ new) := by
    rw [after, hsources, ← popped_append_queue, h]
    simp
  have hlength : (popped edges n).length = n := by
    rw [queue_after] at h
    have hlt : n < (after edges n).sources.length :=
      List.length_lt_of_drop_ne_nil (by simp [h])
    exact List.length_take_of_le (Nat.le_of_lt hlt)
  rw [popped, hsplit, List.take_left' (by simp [hlength])]

/-- With the next source of the queue, those that have left it are still the first of all. -/
theorem isPrefix_popped_concat {edges : Edges} {n : Nat} {source : Source} {queue : List Source}
    (h : (after edges n).queue = source :: queue) :
    popped edges n ++ [source] <+: (after edges n).sources := by
  refine ⟨queue, ?_⟩
  rw [← popped_append_queue, h, List.append_assoc, List.singleton_append]

/-- In the middle of a step, some targets of the next source have been let go of as well. -/
theorem Tally.foldl_targets {edges : Edges} {n : Nat} {source : Source} {queue : List Source}
    (h : Tally edges (edges.served (popped edges n)) (after edges n))
    (hqueue : (after edges n).queue = source :: queue) {before rest : List Nat}
    (htargets : source.targets edges = before ++ rest) :
    Tally edges (edges.served (popped edges n) ++ before)
      (before.foldl Sorter.letGo { after edges n with queue }) := by
  have hprefix := isPrefix_popped_concat hqueue
  have hgone : (edges.served (popped edges n) ++ before) <+:
      edges.served (popped edges n ++ [source]) := ⟨rest, by simp [Edges.served, htargets]⟩
  exact (h.withQueue queue).foldl_letGo (h.nodup_sources.sublist hprefix.sublist) hprefix.subset
    hgone

/-- What every run has let go of are the targets of the sources that have left the queue. -/
theorem tally_after (edges : Edges) (n : Nat) :
    Tally edges (edges.served (popped edges n)) (after edges n) := by
  induction n with
  | zero => exact Tally.start_run edges
  | succ n ih =>
    cases hqueue : (after edges n).queue with
    | nil =>
      rw [popped_succ_of_queue_nil hqueue, after, step_of_queue_nil edges hqueue]
      exact ih
    | cons source queue =>
      have hfold := ih.foldl_targets hqueue (List.append_nil _).symm
      rw [popped_succ_of_queue_cons hqueue, after, step_of_queue_cons edges hqueue]
      simpa [Edges.served] using hfold

/-- The start and every node take one step, after which the queue is empty. -/
theorem queue_after_length (edges : Edges) : (after edges (edges.length + 1)).queue = [] := by
  have h := tally_after edges (edges.length + 1)
  have hlength := (h.nodup_sources.subperm h.sources_subset_all).length_le
  rw [queue_after, List.drop_eq_nil_iff]
  simpa [Source.all] using hlength

theorem after_eq_of_queue_nil {edges : Edges} {n m : Nat} (h : (after edges n).queue = [])
    (hle : n ≤ m) : after edges m = after edges n := by
  induction hle with
  | refl => rfl
  | step _ ih => rw [after, ih, step_of_queue_nil edges h]

/-- Any run whose queue is empty has released what the whole run releases. -/
theorem released_eq_releaseOrder {edges : Edges} {n : Nat} (h : (after edges n).queue = []) :
    (after edges n).released = releaseOrder edges := by
  rw [releaseOrder]
  rcases Nat.le_total n (edges.length + 1) with hle | hle
  · rw [after_eq_of_queue_nil h hle]
  · rw [after_eq_of_queue_nil (queue_after_length edges) hle]

end Sorter

end ShellInit
