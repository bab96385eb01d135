import ShellInit.Proofs.Order.Precedence

/-!
# How the counters go down

What holds each time a run is about to take the next source from its queue, or finds it empty: a
counter is what the sources that have not been taken still hold, it is zero exactly if the node is
released, and what is released and has not been taken is the queue. Hence no counter is ever lowered
below zero, and a run takes the start and each released node once.
-/

namespace ShellInit

/-- How often a node stands among the targets of all sources but these; repeated ones count. -/
def Edges.pending (edges : Edges) (taken : List Source) (v : Nat) : Nat :=
  (edges.served ((Source.all edges).filter (· ∉ taken))).count v

namespace Sorter

/-- A run gets to this state by taking these sources from its queue, one after the other. -/
inductive Reaches (edges : Edges) : List Source → Sorter → Prop
  | start : Reaches edges [] (start edges)
  | take {taken : List Source} {s : Sorter} {source : Source} {queue : List Source} :
    Reaches edges taken s → s.queue = source :: queue →
      Reaches edges (taken ++ [source]) (step edges s)

/-- The state of a run that has taken these sources. -/
structure Balanced (edges : Edges) (taken : List Source) (s : Sorter) : Prop where
  size_held : s.held.size = edges.length
  /-- A counter is what is still to come. -/
  held_eq : ∀ v < edges.length, s.held[v]? = some (edges.pending taken v)
  /-- Released is what nothing holds back. -/
  mem_released : ∀ v, v ∈ s.released ↔ s.held[v]? = some 0
  /-- The start is taken first, and after it what has been released, in this order. -/
  queue_eq : ∀ first rest, taken = first :: rest →
    first = .start ∧ rest ++ s.queue = s.released.map .node
  /-- No source is taken twice. -/
  nodup_taken : taken.Nodup
  /-- Whichever target of the next source is let go of, something has held it back until then. -/
  held_pos : ∀ source queue, s.queue = source :: queue →
    ∀ before target after, source.targets edges = before ++ target :: after →
      ∀ count, (before.foldl letGo { s with queue }).held[target]? = some count → 0 < count
  /-- As many sources are taken as there are released nodes, and the start. -/
  length_taken_le : taken.length ≤ 1 + (releaseOrder edges).length
  queue_eq_nil_iff : s.queue = [] ↔ taken.length = 1 + (releaseOrder edges).length
  released_eq : s.queue = [] → s.released = releaseOrder edges

variable {edges : Edges} {taken : List Source} {s : Sorter} {n : Nat}

/-! ## The end of a run -/

/-- The queue is empty as soon as the start and every released node have been taken. -/
theorem queue_after_eq_nil_iff :
    (after edges n).queue = [] ↔ 1 + (releaseOrder edges).length ≤ n := by
  have hlength : (after edges n).queue = [] ↔ 1 + (after edges n).released.length ≤ n := by
    rw [queue_after, List.drop_eq_nil_iff, sources, List.length_cons, List.length_map, Nat.add_comm]
  constructor
  · intro h
    rw [← released_eq_releaseOrder h]
    exact hlength.mp h
  · intro h
    have hle := (released_after_prefix_releaseOrder edges n).length_le
    exact hlength.mpr (by omega)

theorem length_popped (h : n ≤ 1 + (releaseOrder edges).length) : (popped edges n).length = n := by
  rw [popped_eq_take, List.length_take, Source.inOrder, List.length_cons, List.length_map]
  omega

theorem length_releaseOrder_le (edges : Edges) : (releaseOrder edges).length ≤ edges.length := by
  simpa using (releaseOrder_subperm edges).length_le

/-! ## Taking one source after the other -/

theorem reaches_after (h : n ≤ 1 + (releaseOrder edges).length) :
    Reaches edges (popped edges n) (after edges n) := by
  induction n with
  | zero => exact .start
  | succ n ih =>
    cases hqueue : (after edges n).queue with
    | nil =>
      have hend := queue_after_eq_nil_iff.mp hqueue
      omega
    | cons source queue =>
      rw [popped_succ_of_queue_cons hqueue]
      exact .take (ih (by omega)) hqueue

/-- A run has no choice: the number of sources that it has taken tells its state. -/
theorem Reaches.exists_eq (h : Reaches edges taken s) :
    ∃ n ≤ 1 + (releaseOrder edges).length, taken = popped edges n ∧ s = after edges n := by
  induction h with
  | start => exact ⟨0, Nat.zero_le _, rfl, rfl⟩
  | take _ hqueue ih =>
    obtain ⟨n, hle, rfl, rfl⟩ := ih
    have hrest : ¬1 + (releaseOrder edges).length ≤ n := by
      rw [← queue_after_eq_nil_iff, hqueue]
      exact List.cons_ne_nil _ _
    exact ⟨n + 1, by omega, (popped_succ_of_queue_cons hqueue).symm, rfl⟩

/-! ## Counters -/

/-- Each counter is what the sources that have not been taken still hold. -/
theorem held_after (edges : Edges) (n : Nat) {v : Nat} (hv : v < edges.length) :
    (after edges n).held[v]? = some (edges.pending (popped edges n) v) := by
  have h := tally_after edges n
  have hsub : popped edges n ⊆ Source.all edges :=
    List.Subset.trans (List.take_subset _ _) h.sources_subset_all
  have hheld := Array.getElem?_eq_getElem (h.size_held.symm ▸ hv)
  have hgone := h.held_add_count v _ hheld
  have hpending := Source.count_served_add_count_rest (nodup_popped edges n) hsub hv
  rw [hheld, Edges.pending]
  congr 1
  omega

/-- In the middle of a step, too, a counter that is lowered is not zero. -/
theorem held_pos_of_targets_eq {source : Source} {queue : List Source}
    (hqueue : (after edges n).queue = source :: queue) {before rest : List Nat} {target : Nat}
    (htargets : source.targets edges = before ++ target :: rest) {count : Nat}
    (hheld : (before.foldl letGo { after edges n with queue }).held[target]? = some count) :
    0 < count := by
  have h := tally_after edges n
  have hprefix := isPrefix_popped_concat hqueue
  have hgone : (edges.served (popped edges n) ++ before ++ [target]) <+:
      edges.served (popped edges n ++ [source]) := ⟨rest, by simp [Edges.served, htargets]⟩
  have hsub : popped edges n ++ [source] ⊆
      (before.foldl letGo { after edges n with queue }).sources := by
    obtain ⟨new, hreleased, _⟩ := exists_released_foldl_letGo { after edges n with queue } before
    exact List.Subset.trans hprefix.subset (sources_subset_of_released_eq hreleased)
  exact (h.foldl_targets hqueue htargets).held_pos (h.nodup_sources.sublist hprefix.sublist) hsub
    hgone hheld

/-! ## A run as a whole -/

theorem Reaches.balanced (h : Reaches edges taken s) : Balanced edges taken s := by
  obtain ⟨n, hle, rfl, rfl⟩ := h.exists_eq
  have htally := tally_after edges n
  refine ⟨htally.size_held, fun v ↦ held_after edges n, htally.mem_released, ?queue,
    nodup_popped edges n, ?pos, ?le, ?done, released_eq_releaseOrder⟩
  case queue =>
    intro first rest hfirst
    have hsources := popped_append_queue edges n
    rw [hfirst, sources, List.cons_append] at hsources
    exact List.cons.inj hsources
  case pos =>
    intro source queue hqueue before target after htargets count hheld
    exact held_pos_of_targets_eq hqueue htargets hheld
  case le => rwa [length_popped hle]
  case done =>
    rw [queue_after_eq_nil_iff, length_popped hle]
    omega

/-- There is one way to empty the queue. -/
theorem Reaches.eq_of_queue_nil {taken' : List Source} {s' : Sorter} (h : Reaches edges taken s)
    (h' : Reaches edges taken' s') (hqueue : s.queue = []) (hqueue' : s'.queue = []) :
    taken = taken' ∧ s = s' := by
  obtain ⟨n, hle, rfl, rfl⟩ := h.exists_eq
  obtain ⟨n', hle', rfl, rfl⟩ := h'.exists_eq
  rw [queue_after_eq_nil_iff] at hqueue hqueue'
  obtain rfl : n = n' := by omega
  exact ⟨rfl, rfl⟩

/-- Every state that a run gets to is balanced, and every graph has just one run that empties its
queue. -/
theorem reaches_balanced (edges : Edges) :
    (∀ taken s, Reaches edges taken s → Balanced edges taken s) ∧
      (∃! last : List Source × Sorter, Reaches edges last.1 last.2 ∧ last.2.queue = []) ∧
      (releaseOrder edges).length ≤ edges.length := by
  have hreach := reaches_after (Nat.le_refl (1 + (releaseOrder edges).length))
  have hqueue := queue_after_eq_nil_iff.mpr (Nat.le_refl (1 + (releaseOrder edges).length))
  refine ⟨fun _ _ h ↦ h.balanced, ⟨(_, _), ⟨hreach, hqueue⟩, ?_⟩, length_releaseOrder_le edges⟩
  rintro ⟨taken, s⟩ ⟨h, hend⟩
  obtain ⟨rfl, rfl⟩ := h.eq_of_queue_nil hreach hend hqueue
  rfl

/-- After two steps, two sources still hold the first node three times, and the two nodes that have
been released and not taken are in the queue. -/
theorem reaches_balanced_tangle :
    ∃ s, Reaches tangle [.start, .node 3] s ∧ s.held[0]? = some 3 ∧
      s.queue.map (Source.targets tangle) = [[0, 0], [0, 9]] ∧
      [.node 3] ++ s.queue = s.released.map .node ∧
      ∀ count, (letGo { s with queue := [.node 2] } 0).held[0]? = some count → 0 < count := by
  have hstart : (start tangle).queue = [.start] := rfl
  have hfirst : (step tangle (start tangle)).queue = [.node 3] := by decide +kernel
  have hsecond : (step tangle (step tangle (start tangle))).queue = [.node 1, .node 2] := by
    decide +kernel
  have hreach := Reaches.take (.take .start hstart) hfirst
  have hbalanced := (reaches_balanced tangle).1 _ _ hreach
  refine ⟨_, hreach, ?_, ?_, (hbalanced.queue_eq _ _ rfl).2, ?_⟩
  · rw [hbalanced.held_eq 0 (by decide)]
    decide +kernel
  · rw [hsecond]
    rfl
  · intro count hcount
    exact hbalanced.held_pos _ _ hsecond [0] 0 [] rfl count hcount

end Sorter

end ShellInit
