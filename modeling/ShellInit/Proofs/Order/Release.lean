import Mathlib.Data.Fintype.Pigeonhole
import Mathlib.Data.Set.Finite.Basic
import Mathlib.Logic.Relation
import ShellInit.Proofs.Order.Tally

/-!
# What is released, and in which order

A node is released exactly if all nodes that point to it are, and after them. Hence what lies on or
behind a cycle is held back for ever, and nothing else is: from a node that is held back one can walk
backwards for ever, and in a finite graph such a walk meets itself.
-/

open Relation

namespace ShellInit

/-- The edges between nodes; targets that are no nodes do not count. -/
def IsEdge (edges : Edges) (u v : Nat) : Prop :=
  v < edges.length ∧ v ∈ (Source.node u).targets edges

theorem IsEdge.left_lt {edges : Edges} {u v : Nat} (h : IsEdge edges u v) : u < edges.length :=
  Source.lt_of_mem_targets_node h.2

/-! ## Precedence -/

/-- All that lets go in a whole run: the start, and the nodes in the order of their release. -/
def Source.inOrder (edges : Edges) : List Source := .start :: (releaseOrder edges).map .node

/-- At the end of a run the start and all released nodes have let go. -/
theorem tally_releaseOrder (edges : Edges) :
    Sorter.Tally edges (edges.served (Source.inOrder edges))
      (Sorter.after edges (edges.length + 1)) := by
  have h := Sorter.tally_after edges (edges.length + 1)
  have hpopped := Sorter.popped_append_queue edges (edges.length + 1)
  rw [Sorter.queue_after_length, List.append_nil] at hpopped
  rw [hpopped] at h
  exact h

theorem Source.nodup_inOrder (edges : Edges) : (inOrder edges).Nodup :=
  (tally_releaseOrder edges).nodup_sources

theorem Source.inOrder_subset_all (edges : Edges) : inOrder edges ⊆ all edges :=
  (tally_releaseOrder edges).sources_subset_all

theorem nodup_releaseOrder (edges : Edges) : (releaseOrder edges).Nodup :=
  (tally_releaseOrder edges).nodup_released

theorem lt_of_mem_releaseOrder {edges : Edges} {v : Nat} (h : v ∈ releaseOrder edges) :
    v < edges.length := (tally_releaseOrder edges).lt_of_mem_released h

/-- A released node does not stand before itself. -/
theorem not_mem_before {edges : Edges} {before after : List Nat} {v : Nat}
    (hsplit : releaseOrder edges = before ++ v :: after) : v ∉ before := by
  have hnodup := nodup_releaseOrder edges
  rw [hsplit] at hnodup
  intro hmem
  exact List.disjoint_of_nodup_append hnodup hmem List.mem_cons_self

/-- What points to a released node stands before it. -/
theorem mem_before_of_isEdge {edges : Edges} {before after : List Nat} {u v : Nat}
    (hsplit : releaseOrder edges = before ++ v :: after) (h : IsEdge edges u v) : u ∈ before :=
  (tally_releaseOrder edges).preceded before v after hsplit u h.2

/-- What leads to a released node stands before it, however long the way. -/
theorem mem_before_of_transGen {edges : Edges} {before after : List Nat} {u v : Nat}
    (hsplit : releaseOrder edges = before ++ v :: after) (h : TransGen (IsEdge edges) u v) :
    u ∈ before := by
  induction h using TransGen.head_induction_on with
  | single hedge => exact mem_before_of_isEdge hsplit hedge
  | head hedge _ ih =>
    obtain ⟨first, rest, rfl⟩ := List.append_of_mem ih
    rw [List.append_assoc] at hsplit
    exact List.mem_append_left _ (mem_before_of_isEdge hsplit hedge)

theorem mem_releaseOrder_of_transGen {edges : Edges} {u v : Nat} (hv : v ∈ releaseOrder edges)
    (h : TransGen (IsEdge edges) u v) : u ∈ releaseOrder edges := by
  obtain ⟨before, after, hsplit⟩ := List.append_of_mem hv
  rw [hsplit]
  exact List.mem_append_left _ (mem_before_of_transGen hsplit h)

/-- In terms of positions: along edges they grow. -/
theorem lt_of_transGen_releaseOrder {edges : Edges} {p q : Nat}
    (hp : p < (releaseOrder edges).length) (hq : q < (releaseOrder edges).length)
    (h : TransGen (IsEdge edges) (releaseOrder edges)[p] (releaseOrder edges)[q]) : p < q := by
  have hsplit : releaseOrder edges =
      (releaseOrder edges).take q ++ (releaseOrder edges)[q] :: (releaseOrder edges).drop (q + 1) := by
    rw [List.cons_getElem_drop_succ, List.take_append_drop]
  obtain ⟨i, hi, heq⟩ := List.mem_take_iff_getElem.mp (mem_before_of_transGen hsplit h)
  have hip : i = p := (nodup_releaseOrder edges).getElem_inj_iff.mp heq
  omega

/-! ## Cycles -/

/-- A node is released exactly if everything that points to it is. -/
theorem mem_releaseOrder_iff {edges : Edges} {v : Nat} (hv : v < edges.length) :
    v ∈ releaseOrder edges ↔ ∀ u, IsEdge edges u v → u ∈ releaseOrder edges := by
  constructor
  · intro hmem u hedge
    exact mem_releaseOrder_of_transGen hmem (.single hedge)
  · intro hall
    have h := tally_releaseOrder edges
    refine h.mem_released_iff.mpr ⟨hv, ?_⟩
    refine (Source.count_served_eq_iff (Source.nodup_inOrder edges)
      (Source.inOrder_subset_all edges) hv).mpr ?_
    intro source _ hmem
    cases source with
    | start => exact List.mem_cons_self
    | node u => exact Sorter.node_mem_sources.mpr (hall u ⟨hv, hmem⟩)

/-- What a cycle leads to is never released. -/
theorem not_mem_releaseOrder_of_cycle {edges : Edges} {u v : Nat}
    (hcycle : TransGen (IsEdge edges) u u) (hpath : ReflTransGen (IsEdge edges) u v) :
    v ∉ releaseOrder edges := by
  intro hmem
  have hu : u ∈ releaseOrder edges := by
    rcases Relation.reflTransGen_iff_eq_or_transGen.mp hpath with rfl | hpath
    · exact hmem
    · exact mem_releaseOrder_of_transGen hmem hpath
  obtain ⟨before, after, hsplit⟩ := List.append_of_mem hu
  exact not_mem_before hsplit (mem_before_of_transGen hsplit hcycle)

/-- Among finitely many nodes, a walk that can always be continued backwards meets itself. -/
theorem exists_cycle_of_forall_exists {α : Type*} {r : α → α → Prop} {held : Set α}
    (hfinite : held.Finite) (hback : ∀ v ∈ held, ∃ u ∈ held, r u v) {v : α} (hv : v ∈ held) :
    ∃ u, TransGen r u u ∧ ReflTransGen r u v := by
  choose! back hheld hr using hback
  have hwalk (n : Nat) : back^[n] v ∈ held := by
    induction n with
    | zero => exact hv
    | succ n ih =>
      rw [Function.iterate_succ_apply']
      exact hheld _ ih
  have hstep (n : Nat) : r (back^[n + 1] v) (back^[n] v) := by
    rw [Function.iterate_succ_apply']
    exact hr _ (hwalk n)
  have hpath (n k : Nat) : ReflTransGen r (back^[n + k] v) (back^[n] v) := by
    induction k with
    | zero => exact .refl
    | succ k ih => exact .head (hstep (n + k)) ih
  have : Finite held := hfinite
  obtain ⟨i, j, hne, heq⟩ := Finite.exists_ne_map_eq_of_infinite fun n ↦
    (⟨back^[n] v, hwalk n⟩ : held)
  have hmeet : back^[i] v = back^[j] v := congrArg Subtype.val heq
  have hcycle {n m : Nat} (hlt : n < m) (hmeet : back^[n] v = back^[m] v) :
      TransGen r (back^[n] v) (back^[n] v) := by
    obtain ⟨k, rfl⟩ := Nat.exists_eq_add_of_lt hlt
    have hloop : TransGen r (back^[n + k + 1] v) (back^[n] v) :=
      .head' (hstep (n + k)) (hpath n k)
    rwa [← hmeet] at hloop
  have hstart (n : Nat) : ReflTransGen r (back^[n] v) v := by simpa using hpath 0 n
  rcases Nat.lt_or_gt_of_ne hne with hlt | hlt
  · exact ⟨_, hcycle hlt hmeet, hstart i⟩
  · exact ⟨_, hcycle hlt hmeet.symm, hstart j⟩

/-- Only cycles hold nodes back. -/
theorem exists_cycle_of_not_mem_releaseOrder {edges : Edges} {v : Nat} (hv : v < edges.length)
    (hnot : v ∉ releaseOrder edges) :
    ∃ u, TransGen (IsEdge edges) u u ∧ ReflTransGen (IsEdge edges) u v := by
  have hfinite : {u | u < edges.length ∧ u ∉ releaseOrder edges}.Finite :=
    (Set.finite_lt_nat edges.length).subset fun _ h ↦ h.1
  refine exists_cycle_of_forall_exists hfinite ?_ (v := v) ⟨hv, hnot⟩
  rintro w ⟨hw, hheld⟩
  rw [mem_releaseOrder_iff hw] at hheld
  push Not at hheld
  obtain ⟨u, hedge, hu⟩ := hheld
  exact ⟨u, ⟨hedge.left_lt, hu⟩, hedge⟩

/-- Nodes are released at most once, and nothing else is. -/
theorem releaseOrder_subperm (edges : Edges) :
    (releaseOrder edges).Subperm (List.range edges.length) :=
  (nodup_releaseOrder edges).subperm fun _ h ↦ List.mem_range.mpr (lt_of_mem_releaseOrder h)

/-- Nodes are left out exactly if the graph has a cycle. -/
theorem length_releaseOrder_lt_iff (edges : Edges) :
    (releaseOrder edges).length < edges.length ↔ ∃ v, TransGen (IsEdge edges) v v := by
  constructor
  · intro hlt
    by_contra hacyclic
    have hsub : List.range edges.length ⊆ releaseOrder edges := by
      intro v hv
      by_contra hnot
      obtain ⟨u, hcycle, _⟩ :=
        exists_cycle_of_not_mem_releaseOrder (List.mem_range.mp hv) hnot
      exact hacyclic ⟨u, hcycle⟩
    have hle := (List.nodup_range.subperm hsub).length_le
    rw [List.length_range] at hle
    omega
  · rintro ⟨v, hcycle⟩
    by_contra hge
    have hperm := (releaseOrder_subperm edges).perm_of_length_le (by simpa using hge)
    have hv : v < edges.length := by
      obtain ⟨_, hedge, _⟩ := TransGen.head'_iff.mp hcycle
      exact hedge.left_lt
    exact not_mem_releaseOrder_of_cycle hcycle .refl (hperm.mem_iff.mpr (List.mem_range.mpr hv))

/-! ## The result as a whole -/

/-- The released nodes are nodes, each of them once, and along edges positions grow. -/
theorem releaseOrder_precedes (edges : Edges) :
    (releaseOrder edges).Nodup ∧
      (∀ v ∈ releaseOrder edges, v < edges.length) ∧
      ∀ v ∈ releaseOrder edges, ∀ u (hu : u < edges.length), v ∈ edges[u] →
        u ∈ releaseOrder edges ∧
          (releaseOrder edges).idxOf u < (releaseOrder edges).idxOf v := by
  refine ⟨nodup_releaseOrder edges, fun _ ↦ lt_of_mem_releaseOrder, ?_⟩
  intro v hv u hu htarget
  have hedge : IsEdge edges u v := by
    refine ⟨lt_of_mem_releaseOrder hv, ?_⟩
    simpa [Source.targets, hu] using htarget
  obtain ⟨before, after, hsplit⟩ := List.append_of_mem hv
  have hmem := mem_before_of_isEdge hsplit hedge
  rw [hsplit]
  refine ⟨List.mem_append_left _ hmem, ?_⟩
  calc
    (before ++ v :: after).idxOf u = before.idxOf u := List.idxOf_append_of_mem hmem
    _ < before.length := List.idxOf_lt_length_of_mem hmem
    _ = (before ++ v :: after).idxOf v := by
      rw [List.idxOf_append_of_notMem (not_mem_before hsplit), List.idxOf_cons_self, Nat.add_zero]

/-- A node repeats a target, one points to no node, and one points to itself. -/
def tangle : Edges := [[], [0, 0], [0, 9], [1, 2], [4, 5], []]

/-- The target that is no node and the repeated one do no harm. -/
theorem releaseOrder_precedes_tangle :
    releaseOrder tangle = [3, 1, 2, 0] ∧
      (releaseOrder tangle).idxOf 2 < (releaseOrder tangle).idxOf 0 := by
  have horder : releaseOrder tangle = [3, 1, 2, 0] := by decide +kernel
  obtain ⟨_, _, hprecedes⟩ := releaseOrder_precedes tangle
  exact ⟨horder, (hprecedes 0 (by simp [horder]) 2 (by decide) (by decide)).2⟩

/-- Left out are the nodes on a cycle and those behind one, hence none exactly if there is no
cycle. -/
theorem releaseOrder_withholds (edges : Edges) :
    (∀ v < edges.length, v ∉ releaseOrder edges ↔
      TransGen (IsEdge edges) v v ∨
        ∃ u, TransGen (IsEdge edges) u u ∧ TransGen (IsEdge edges) u v) ∧
    ((releaseOrder edges).length = edges.length ↔ ∀ v, ¬TransGen (IsEdge edges) v v) := by
  constructor
  · intro v hv
    constructor
    · intro hnot
      obtain ⟨u, hcycle, hpath⟩ := exists_cycle_of_not_mem_releaseOrder hv hnot
      rcases Relation.reflTransGen_iff_eq_or_transGen.mp hpath with rfl | hpath
      · exact .inl hcycle
      · exact .inr ⟨u, hcycle, hpath⟩
    · rintro (hcycle | ⟨u, hcycle, hpath⟩)
      · exact not_mem_releaseOrder_of_cycle hcycle .refl
      · exact not_mem_releaseOrder_of_cycle hcycle hpath.to_reflTransGen
  · have hle := (releaseOrder_subperm edges).length_le
    rw [List.length_range] at hle
    rw [← not_exists, ← length_releaseOrder_lt_iff]
    omega

/-- Node 5 lies on a cycle, and so is left out. -/
theorem releaseOrder_withholds_tangle :
    (TransGen (IsEdge tangle) 5 5 ∨
      ∃ u, TransGen (IsEdge tangle) u u ∧ TransGen (IsEdge tangle) u 5) ∧
    ¬∀ v, ¬TransGen (IsEdge tangle) v v := by
  have horder : releaseOrder tangle = [3, 1, 2, 0] := by decide +kernel
  obtain ⟨hmem, hlength⟩ := releaseOrder_withholds tangle
  refine ⟨(hmem 5 (by decide)).mp (by simp [horder]), ?_⟩
  rw [← hlength, horder]
  decide

end ShellInit
