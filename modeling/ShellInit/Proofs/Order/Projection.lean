import Mathlib.Data.List.Count
import ShellInit.Proofs.Order.Tally

/-!
# Runs on a part of a graph

If no edge leads from what is left out to what is kept, the nodes left out can only come later: they
take their turns in the queue, but no kept node waits for them. So the run on the whole graph,
restricted to the kept nodes, is the run on the kept part, up to the numbers of the nodes.
-/

namespace ShellInit

namespace Source

def isKept (keep : Nat → Bool) : Source → Bool
  | .start => true
  | .node u => keep u

def moved (place : Nat → Nat) : Source → Source
  | .start => .start
  | .node i => .node (place i)

end Source

/-- The part of a graph that consists of the kept nodes, if no other node points to one of them.
Node `i` of the part stands at `place i` in the whole. -/
structure IsPart (place : Nat → Nat) (keep : Nat → Bool) (whole part : Edges) : Prop where
  injective : Function.Injective place
  keep_place : ∀ i, keep (place i) = true
  range : (List.range whole.length).filter keep = (List.range part.length).map place
  targets_place : ∀ i, ((Source.node (place i)).targets whole).filter keep =
    ((Source.node i).targets part).map place
  targets_left_out : ∀ u, keep u = false → ((Source.node u).targets whole).filter keep = []

namespace IsPart

variable {place : Nat → Nat} {keep : Nat → Bool} {whole part : Edges}

theorem place_lt_iff (h : IsPart place keep whole part) {i : Nat} :
    place i < whole.length ↔ i < part.length := by
  have hmem : place i ∈ (List.range whole.length).filter keep ↔ i < part.length := by
    rw [h.range, List.mem_map_of_injective h.injective, List.mem_range]
  rw [← hmem, List.mem_filter, List.mem_range]
  simp [h.keep_place]

theorem targets_moved (h : IsPart place keep whole part) (source : Source) :
    ((source.moved place).targets whole).filter keep = (source.targets part).map place := by
  cases source with
  | start => exact h.range
  | node i => exact h.targets_place i

theorem filter_flatten (h : IsPart place keep whole part) :
    whole.flatten.filter keep = part.flatten.map place := by
  have hskip (l : List Nat) :
      (l.filter keep).flatMap (fun u ↦ ((Source.node u).targets whole).filter keep) =
        l.flatMap fun u ↦ ((Source.node u).targets whole).filter keep := by
    induction l with
    | nil => rfl
    | cons u l ih =>
      cases hu : keep u with
      | true => simp only [List.filter_cons, hu, if_true, List.flatMap_cons, ih]
      | false => simp [hu, ih, h.targets_left_out u hu]
  calc
    _ = (List.range whole.length).flatMap
          fun u ↦ ((Source.node u).targets whole).filter keep := by
      rw [← Source.flatMap_range_targets, List.filter_flatMap]
    _ = ((List.range part.length).map place).flatMap
          fun u ↦ ((Source.node u).targets whole).filter keep := by
      rw [← hskip, h.range]
    _ = (List.range part.length).flatMap fun i ↦ ((Source.node i).targets part).map place := by
      simp only [List.flatMap_map, h.targets_place]
    _ = part.flatten.map place := by
      rw [← Source.flatMap_range_targets, List.map_flatMap]

/-- A kept node is held back by the same number of edges in both graphs. -/
theorem heldAtStart_place (h : IsPart place keep whole part) (i : Nat) :
    heldAtStart whole (place i) = heldAtStart part i := by
  have hcount : (whole.flatten.filter keep).count (place i) = part.flatten.count i := by
    rw [h.filter_flatten, List.count_map_of_injective _ _ h.injective]
  rw [heldAtStart, heldAtStart, ← hcount, List.count_filter (h.keep_place i)]

end IsPart

namespace Sorter

/-- What a run on the whole shows of the kept nodes is a run on the part. -/
structure Shows (place : Nat → Nat) (keep : Nat → Bool) (whole part : Sorter) : Prop where
  held : ∀ i, whole.held[place i]? = part.held[i]?
  queue : whole.queue.filter (Source.isKept keep) = part.queue.map (Source.moved place)
  released : whole.released.filter keep = part.released.map place

namespace Shows

variable {place : Nat → Nat} {keep : Nat → Bool} {s t : Sorter}

theorem held_setIfInBounds (hinjective : Function.Injective place) (h : Shows place keep s t)
    (i count j : Nat) :
    (s.held.setIfInBounds (place i) count)[place j]? = (t.held.setIfInBounds i count)[j]? := by
  by_cases heq : i = j
  · subst heq
    have hlt : place i < s.held.size ↔ i < t.held.size := by
      rw [← Nat.not_le, ← Nat.not_le, ← Array.getElem?_eq_none_iff, h.held,
        Array.getElem?_eq_none_iff]
    simp only [Array.getElem?_setIfInBounds_self, hlt]
  · rw [Array.getElem?_setIfInBounds_ne heq,
      Array.getElem?_setIfInBounds_ne (hinjective.ne heq), h.held]

/-- Both runs let go of a kept node. -/
theorem letGo_place (hinjective : Function.Injective place) (h : Shows place keep s t) {i : Nat}
    (hkeep : keep (place i) = true) : Shows place keep (s.letGo (place i)) (t.letGo i) := by
  have hheld' := h.held i
  cases hheld : t.held[i]? with
  | none =>
    rw [hheld] at hheld'
    rw [letGo_of_held_none hheld', letGo_of_held_none hheld]
    exact h
  | some count =>
    rw [hheld] at hheld'
    rcases Nat.lt_or_ge 1 count with hcount | hcount
    · rw [letGo_of_one_lt hheld' hcount, letGo_of_one_lt hheld hcount]
      exact ⟨h.held_setIfInBounds hinjective i _, h.queue, h.released⟩
    · rw [letGo_of_le_one hheld' hcount, letGo_of_le_one hheld hcount]
      refine ⟨h.held_setIfInBounds hinjective i _, ?_, ?_⟩
      · simp [h.queue, Source.isKept, Source.moved, hkeep]
      · simp [h.released, hkeep]

/-- The run on the part does not notice a node that is left out. -/
theorem letGo_left_out (hplace : ∀ i, keep (place i) = true) (h : Shows place keep s t) {u : Nat}
    (hu : keep u = false) : Shows place keep (s.letGo u) t := by
  have hne (i : Nat) : u ≠ place i := by
    rintro rfl
    simp [hplace] at hu
  have hheld (count i : Nat) : (s.held.setIfInBounds u count)[place i]? = t.held[i]? := by
    rw [Array.getElem?_setIfInBounds_ne (hne i), h.held]
  cases hu' : s.held[u]? with
  | none =>
    rw [letGo_of_held_none hu']
    exact h
  | some count =>
    rcases Nat.lt_or_ge 1 count with hcount | hcount
    · rw [letGo_of_one_lt hu' hcount]
      exact ⟨hheld _, h.queue, h.released⟩
    · rw [letGo_of_le_one hu' hcount]
      refine ⟨hheld _, ?_, ?_⟩
      · simp [h.queue, Source.isKept, hu]
      · simp [h.released, hu]

theorem foldl_letGo (hinjective : Function.Injective place) (hplace : ∀ i, keep (place i) = true)
    {targets targets' : List Nat} (htargets : targets.filter keep = targets'.map place)
    (h : Shows place keep s t) :
    Shows place keep (targets.foldl letGo s) (targets'.foldl letGo t) := by
  induction targets generalizing s t targets' with
  | nil =>
    obtain rfl : targets' = [] := List.map_eq_nil_iff.mp htargets.symm
    exact h
  | cons u targets ih =>
    cases hu : keep u with
    | false =>
      rw [List.filter_cons_of_neg (by simp [hu])] at htargets
      exact ih htargets (h.letGo_left_out hplace hu)
    | true =>
      rw [List.filter_cons_of_pos hu] at htargets
      obtain ⟨i, rest, rfl, rfl, hrest⟩ := List.map_eq_cons_iff.mp htargets.symm
      rw [List.foldl_cons, List.foldl_cons]
      exact ih hrest.symm (h.letGo_place hinjective hu)

variable {whole part : Edges}

theorem start (hpart : IsPart place keep whole part) :
    Shows place keep (start whole) (start part) where
  held i := by
    by_cases hi : i < part.length
    · have hi' := hpart.place_lt_iff.mpr hi
      simpa [Sorter.start, hi, hi', heldAtStart] using hpart.heldAtStart_place i
    · have hi' := hpart.place_lt_iff.not.mpr hi
      simp [Sorter.start, hi, hi']
  queue := rfl
  released := rfl

/-- A step of the whole is a step of the part, or leaves what is seen of it unchanged. -/
theorem step (hpart : IsPart place keep whole part) (h : Shows place keep s t) :
    Shows place keep (step whole s) t ∨ Shows place keep (step whole s) (step part t) := by
  cases hqueue : s.queue with
  | nil =>
    rw [step_of_queue_nil whole hqueue]
    exact .inl h
  | cons source queue =>
    have hshown := h.queue
    rw [hqueue] at hshown
    rw [step_of_queue_cons whole hqueue]
    cases hsource : source.isKept keep with
    | false =>
      -- A node that is left out lets go of such nodes only: the part stands still meanwhile.
      left
      rw [List.filter_cons_of_neg (by simp [hsource])] at hshown
      have hnothing : (source.targets whole).filter keep = ([] : List Nat).map place := by
        cases source with
        | start => simp [Source.isKept] at hsource
        | node u => exact hpart.targets_left_out u hsource
      exact foldl_letGo (s := { s with queue }) hpart.injective hpart.keep_place hnothing
        ⟨h.held, hshown, h.released⟩
    | true =>
      right
      rw [List.filter_cons_of_pos hsource] at hshown
      obtain ⟨source', queue', hqueue', rfl, hrest⟩ := List.map_eq_cons_iff.mp hshown.symm
      rw [step_of_queue_cons part hqueue']
      exact foldl_letGo (s := { s with queue }) (t := { t with queue := queue' })
        hpart.injective hpart.keep_place (hpart.targets_moved source')
        ⟨h.held, hrest.symm, h.released⟩

/-- However long the run on the whole, it shows some run on the part. -/
theorem exists_after (hpart : IsPart place keep whole part) (n : Nat) :
    ∃ m, Shows place keep (after whole n) (after part m) := by
  induction n with
  | zero => exact ⟨0, start hpart⟩
  | succ n ih =>
    obtain ⟨m, h⟩ := ih
    rcases h.step hpart with hstep | hstep
    · exact ⟨m, hstep⟩
    · exact ⟨m + 1, hstep⟩

end Shows

end Sorter

/-- The kept nodes are released in the order in which the part alone releases them. -/
theorem IsPart.filter_releaseOrder {place : Nat → Nat} {keep : Nat → Bool} {whole part : Edges}
    (h : IsPart place keep whole part) :
    (releaseOrder whole).filter keep = (releaseOrder part).map place := by
  obtain ⟨m, hm⟩ := Sorter.Shows.exists_after h (whole.length + 1)
  have hqueue : (Sorter.after part m).queue = [] := by
    have hshown := hm.queue
    rw [Sorter.queue_after_length, List.filter_nil] at hshown
    exact List.map_eq_nil_iff.mp hshown.symm
  rw [← Sorter.released_eq_releaseOrder hqueue]
  exact hm.released

end ShellInit
