import Mathlib.Data.Prod.Lex
import Mathlib.Order.Bounds.Basic
import ShellInit.Proofs.Order.Precedence

/-!
# Where a node is released

The last source that leads to a node releases it, at the last place where it lists the node. These
two numbers tell the whole order: sources let go in the order in which they are released, and each
of them goes through its targets once.
-/

open scoped List

namespace ShellInit

/-! ## Last positions -/

section LastIdx

variable {α β : Type*} {p : α → Bool} {l : List α} {a : α}

/-- The last position at which a list has what is looked for; 0 if it does not have it. -/
def lastIdx (p : α → Bool) : List α → Nat
  | [] => 0
  | _ :: l => if l.any p then lastIdx p l + 1 else 0

theorem lastIdx_cons_of_any (h : l.any p) : lastIdx p (a :: l) = lastIdx p l + 1 := by
  rw [lastIdx, if_pos h]

theorem lastIdx_cons_of_not_any (h : ¬l.any p) : lastIdx p (a :: l) = 0 := by
  rw [lastIdx, if_neg h]

/-- It is the greatest position at which there is what is looked for. -/
theorem isGreatest_lastIdx (h : l.any p) :
    IsGreatest {i | ∃ a, l[i]? = some a ∧ p a} (lastIdx p l) := by
  induction l with
  | nil => simp at h
  | cons first l ih =>
    by_cases hrest : l.any p
    · rw [lastIdx_cons_of_any hrest]
      obtain ⟨hmem, hgreatest⟩ := ih hrest
      refine ⟨hmem, ?_⟩
      intro i hi
      cases i with
      | zero => exact Nat.zero_le _
      | succ i => exact Nat.succ_le_succ (hgreatest hi)
    · rw [lastIdx_cons_of_not_any hrest]
      refine ⟨⟨first, rfl, by simpa [hrest] using h⟩, ?_⟩
      intro i hi
      cases i with
      | zero => exact Nat.le_refl 0
      | succ i =>
        obtain ⟨a, ha, hp⟩ := hi
        exact absurd (List.any_eq_true.mpr ⟨a, List.mem_of_getElem? (l := l) ha, hp⟩) hrest

theorem lastIdx_map (f : β → α) (l : List β) : lastIdx p (l.map f) = lastIdx (p ∘ f) l := by
  induction l with
  | nil => rfl
  | cons b l ih => simp only [List.map_cons, lastIdx, List.any_map, ih]

theorem lastIdx_range {v n : Nat} (h : v < n) : lastIdx (· = v) (List.range n) = v := by
  have hany : (List.range n).any (· = v) := by simpa using h
  obtain ⟨a, ha, heq⟩ := (isGreatest_lastIdx hany).1
  obtain ⟨hlt, hget⟩ := List.getElem?_eq_some_iff.mp ha
  rw [List.getElem_range] at hget
  exact hget.trans (of_decide_eq_true heq)

/-- What a list has without its repetitions stands in the order of the last places. -/
theorem pairwise_dedup_lastIdx [DecidableEq α] (l : List α) :
    l.dedup.Pairwise fun a b ↦ lastIdx (· = a) l < lastIdx (· = b) l := by
  induction l with
  | nil => exact .nil
  | cons first l ih =>
    have hany {a : α} (h : a ∈ l.dedup) : l.any (· = a) := by
      simpa using h
    have hrest : l.dedup.Pairwise fun a b ↦
        lastIdx (· = a) (first :: l) < lastIdx (· = b) (first :: l) := by
      refine ih.imp_of_mem ?_
      intro a b ha hb hlt
      rw [lastIdx_cons_of_any (hany ha), lastIdx_cons_of_any (hany hb)]
      exact Nat.succ_lt_succ hlt
    by_cases hfirst : first ∈ l
    · rwa [List.dedup_cons_of_mem hfirst]
    · rw [List.dedup_cons_of_notMem hfirst]
      refine List.pairwise_cons.mpr ⟨?_, hrest⟩
      intro b hb
      rw [lastIdx_cons_of_not_any (by simpa using hfirst), lastIdx_cons_of_any (hany hb)]
      exact Nat.succ_pos _

/-- In an increasing list, what is greater stands later. -/
theorem lastIdx_lt_lastIdx {l : List Nat} (hsorted : l.Pairwise (· < ·)) {u v : Nat} (hu : u ∈ l)
    (hv : v ∈ l) (hlt : u < v) : lastIdx (· = u) l < lastIdx (· = v) l := by
  have hplaces := pairwise_dedup_lastIdx l
  rw [hsorted.nodup.dedup] at hplaces
  obtain ⟨i, hi, rfl⟩ := List.getElem_of_mem hu
  obtain ⟨j, hj, rfl⟩ := List.getElem_of_mem hv
  rcases Nat.lt_trichotomy i j with hij | rfl | hji
  · exact List.pairwise_iff_getElem.mp hplaces i j hi hj hij
  · exact absurd hlt (lt_irrefl _)
  · exact absurd (List.pairwise_iff_getElem.mp hsorted j i hj hi hji) (lt_asymm hlt)

end LastIdx

/-! ## The step of a node -/

/-- The number of the last source that leads to a node. -/
def releaseStep (edges : Edges) (v : Nat) : Nat :=
  lastIdx (v ∈ ·.targets edges) (Source.inOrder edges)

/-- The last place at which this source lists the node. -/
def releasePlace (edges : Edges) (v : Nat) : Nat :=
  lastIdx (· = v) ((Source.inOrder edges)[releaseStep edges v]?.elim [] (Source.targets edges))

section Step

open Sorter

variable {edges : Edges} {n u v : Nat}

/-- The source at the front of the queue is the one whose turn it is. -/
theorem inOrder_getElem?_of_queue_cons {source : Source} {queue : List Source}
    (h : (after edges n).queue = source :: queue) :
    (Source.inOrder edges)[n]? = some source := by
  have hpopped := popped_succ_of_queue_cons h
  rw [popped_eq_take, popped_eq_take, List.take_add_one] at hpopped
  simpa using List.append_cancel_left hpopped

theorem releasePlace_of_step {source : Source} (hstep : releaseStep edges v = n)
    (hsource : (Source.inOrder edges)[n]? = some source) :
    releasePlace edges v = lastIdx (· = v) (source.targets edges) := by
  rw [releasePlace, hstep, hsource, Option.elim_some]

/-- No later source leads to the node. -/
theorem isGreatest_releaseStep (hv : v < edges.length) :
    IsGreatest {i | ∃ source, (Source.inOrder edges)[i]? = some source ∧ v ∈ source.targets edges}
      (releaseStep edges v) := by
  have hany : (Source.inOrder edges).any (v ∈ ·.targets edges) := by
    simp [Source.inOrder, Source.targets, hv]
  simpa [releaseStep] using isGreatest_lastIdx hany

/-- A node is released in the step of the last source that leads to it. -/
theorem mem_released_after_iff_lt (hv : v ∈ releaseOrder edges) :
    v ∈ (after edges n).released ↔ releaseStep edges v < n := by
  have hlt := lt_of_mem_releaseOrder hv
  obtain ⟨⟨last, hlast, hleads⟩, hgreatest⟩ := isGreatest_releaseStep hlt
  have hall := Source.inOrder_subset_all edges (List.mem_of_getElem? hlast)
  rw [mem_released_after_iff, popped_eq_take]
  constructor
  · intro hready
    obtain ⟨i, hi, hget⟩ := List.mem_take_iff_getElem.mp (hready.2 last hall hleads)
    obtain ⟨_, hlast⟩ := List.getElem?_eq_some_iff.mp hlast
    have hsame : i = releaseStep edges v :=
      (Source.nodup_inOrder edges).getElem_inj_iff.mp (hget.trans hlast.symm)
    omega
  · intro hn
    refine ⟨hlt, ?_⟩
    intro source hsource htarget
    -- The node is released at some time, so all that leads to it lets go at some time.
    have hready := mem_released_after_iff.mp hv
    rw [popped_eq_take] at hready
    obtain ⟨i, _, hget⟩ := List.mem_take_iff_getElem.mp (hready.2 source hsource htarget)
    have hi : i ≤ releaseStep edges v :=
      hgreatest ⟨source, List.getElem?_eq_some_iff.mpr ⟨_, hget⟩, htarget⟩
    exact List.mem_take_iff_getElem.mpr ⟨i, by omega, hget⟩

/-- What a step adds to the released nodes belongs to that step. -/
theorem releaseStep_eq_of_mem_released_after (hmem : v ∈ (after edges (n + 1)).released)
    (hnot : v ∉ (after edges n).released) : releaseStep edges v = n := by
  have hv := (released_after_prefix_releaseOrder edges (n + 1)).subset hmem
  rw [mem_released_after_iff_lt hv] at hmem hnot
  omega

/-- The two numbers that tell the order: the step of a node, and its place in that step. -/
def releaseKey (edges : Edges) (v : Nat) : Nat ×ₗ Nat :=
  toLex (releaseStep edges v, releasePlace edges v)

theorem releaseKey_lt_iff :
    releaseKey edges u < releaseKey edges v ↔ releaseStep edges u < releaseStep edges v ∨
      releaseStep edges u = releaseStep edges v ∧ releasePlace edges u < releasePlace edges v :=
  Prod.Lex.toLex_lt_toLex

/-- The nodes of one step are told apart by their places. -/
theorem pairwise_of_releaseStep_eq {source : Source}
    (hsource : (Source.inOrder edges)[n]? = some source) {new : List Nat}
    (hnew : new <+ (source.targets edges).dedup) (hstep : ∀ v ∈ new, releaseStep edges v = n) :
    new.Pairwise fun u v ↦ releaseKey edges u < releaseKey edges v := by
  apply ((pairwise_dedup_lastIdx (source.targets edges)).sublist hnew).imp_of_mem
  intro u v hu hv hlt
  apply releaseKey_lt_iff.mpr
  refine .inr ⟨(hstep u hu).trans (hstep v hv).symm, ?_⟩
  rwa [releasePlace_of_step (hstep u hu) hsource, releasePlace_of_step (hstep v hv) hsource]

/-- Nodes are released in the order of their keys. -/
theorem pairwise_released_after (edges : Edges) (n : Nat) :
    (after edges n).released.Pairwise fun u v ↦ releaseKey edges u < releaseKey edges v := by
  induction n with
  | zero => exact .nil
  | succ n ih =>
    cases hqueue : (after edges n).queue with
    | nil =>
      rw [after, step_of_queue_nil edges hqueue]
      exact ih
    | cons source queue =>
      have hreleased := released_after_succ hqueue
      have hnodup := (tally_after edges (n + 1)).nodup_released
      rw [hreleased] at hnodup
      have hnew : ∀ v ∈ (source.targets edges).dedup.filter
          (Ready edges (popped edges (n + 1))), releaseStep edges v = n := by
        intro v hv
        apply releaseStep_eq_of_mem_released_after
        · rw [hreleased]
          exact List.mem_append_right _ hv
        · exact fun hold ↦ List.disjoint_of_nodup_append hnodup hold hv
      rw [hreleased, List.pairwise_append]
      refine ⟨ih, ?_, ?_⟩
      · exact pairwise_of_releaseStep_eq (inOrder_getElem?_of_queue_cons hqueue)
          List.filter_sublist hnew
      · -- What has been released before belongs to an earlier step.
        intro u hu v hv
        have hmem := (released_after_prefix_releaseOrder edges n).subset hu
        apply releaseKey_lt_iff.mpr
        rw [hnew v hv]
        exact .inl ((mem_released_after_iff_lt hmem).mp hu)

theorem pairwise_releaseOrder (edges : Edges) :
    (releaseOrder edges).Pairwise fun u v ↦ releaseKey edges u < releaseKey edges v :=
  pairwise_released_after edges (edges.length + 1)

theorem idxOf_lt_idxOf_iff_releaseKey_lt (hu : u ∈ releaseOrder edges)
    (hv : v ∈ releaseOrder edges) :
    (releaseOrder edges).idxOf u < (releaseOrder edges).idxOf v ↔
      releaseKey edges u < releaseKey edges v := by
  have hforward {u v : Nat} (hv : v ∈ releaseOrder edges)
      (hlt : (releaseOrder edges).idxOf u < (releaseOrder edges).idxOf v) :
      releaseKey edges u < releaseKey edges v :=
    List.pairwise_iff_forall_sublist.mp (pairwise_releaseOrder edges)
      (pair_sublist_of_idxOf_lt hv hlt)
  refine ⟨hforward hv, fun hkey ↦ ?_⟩
  rcases Nat.lt_trichotomy ((releaseOrder edges).idxOf u) ((releaseOrder edges).idxOf v)
    with hlt | heq | hgt
  · exact hlt
  · obtain rfl := (List.idxOf_inj hu).mp heq
    exact absurd hkey (lt_irrefl _)
  · exact absurd hkey (lt_asymm (hforward hu hgt))

theorem mem_targets_congr (hu : u < edges.length) (hv : v < edges.length)
    (hsame : ∀ w, IsEdge edges w u ↔ IsEdge edges w v) (source : Source) :
    u ∈ source.targets edges ↔ v ∈ source.targets edges := by
  cases source with
  | start => simp [Source.targets, hu, hv]
  | node w => simpa [IsEdge, hu, hv] using hsame w

/-- Nodes with the same predecessors keep the order of their numbers, if targets are listed in that
order. -/
theorem pair_sublist_releaseOrder_of_same
    (hsorted : ∀ source : Source, (source.targets edges).Pairwise (· < ·))
    (hu : u ∈ releaseOrder edges) (hv : v ∈ releaseOrder edges)
    (hsame : ∀ w, IsEdge edges w u ↔ IsEdge edges w v) (hlt : u < v) :
    [u, v] <+ releaseOrder edges := by
  have htargets := mem_targets_congr (lt_of_mem_releaseOrder hu) (lt_of_mem_releaseOrder hv) hsame
  have hstep : releaseStep edges u = releaseStep edges v := by
    unfold releaseStep
    congr 1
    funext source
    exact decide_eq_decide.mpr (htargets source)
  obtain ⟨⟨last, hlast, hleads⟩, _⟩ := isGreatest_releaseStep (lt_of_mem_releaseOrder hv)
  apply pair_sublist_of_idxOf_lt hv
  rw [idxOf_lt_idxOf_iff_releaseKey_lt hu hv, releaseKey_lt_iff]
  refine .inr ⟨hstep, ?_⟩
  calc
    releasePlace edges u = lastIdx (· = u) (last.targets edges) := releasePlace_of_step hstep hlast
    _ < lastIdx (· = v) (last.targets edges) :=
      lastIdx_lt_lastIdx (hsorted last) ((htargets last).mpr hleads) hleads hlt
    _ = releasePlace edges v := (releasePlace_of_step rfl hlast).symm

end Step

/-! ## Without the start -/

/-- The position in the order of the last node that leads to a node, and the last place of the node
among the targets of that one. Nodes to which none leads stand before the order at their own
places. -/
def releasePoint (edges : Edges) (v : Nat) : Int × Nat :=
  if ∀ u < edges.length, v ∉ (Source.node u).targets edges then (-1, v)
  else
    let last := lastIdx (fun u ↦ v ∈ (Source.node u).targets edges) (releaseOrder edges)
    (last, lastIdx (· = v)
      ((releaseOrder edges)[last]?.elim [] fun u ↦ (Source.node u).targets edges))

/-- Counted from the first released node, the point is the key. -/
theorem releasePoint_eq {edges : Edges} {v : Nat} (hv : v ∈ releaseOrder edges) :
    releasePoint edges v = ((releaseStep edges v : Int) - 1, releasePlace edges v) := by
  have hlt := lt_of_mem_releaseOrder hv
  have hany : ((releaseOrder edges).map Source.node).any (v ∈ ·.targets edges) ↔
      ¬∀ u < edges.length, v ∉ (Source.node u).targets edges := by
    simp only [List.any_map, List.any_eq_true, Function.comp_apply, decide_eq_true_eq]
    push Not
    constructor
    · rintro ⟨u, hu, hleads⟩
      exact ⟨u, lt_of_mem_releaseOrder hu, hleads⟩
    · rintro ⟨u, _, hleads⟩
      exact ⟨u, mem_releaseOrder_of_transGen hv (.single ⟨hlt, hleads⟩), hleads⟩
  unfold releasePoint
  split
  case isTrue hnone =>
    have hstep : releaseStep edges v = 0 :=
      lastIdx_cons_of_not_any fun hsome ↦ hany.mp hsome hnone
    have hplace : releasePlace edges v = v :=
      (releasePlace_of_step hstep rfl).trans (lastIdx_range hlt)
    rw [hstep, hplace]
    rfl
  case isFalse hsome =>
    have hstep : releaseStep edges v =
        lastIdx (fun u ↦ v ∈ (Source.node u).targets edges) (releaseOrder edges) + 1 := by
      calc
        releaseStep edges v
          = lastIdx (v ∈ ·.targets edges) ((releaseOrder edges).map Source.node) + 1 :=
            lastIdx_cons_of_any (hany.mpr hsome)
        _ = _ := by rw [lastIdx_map]; rfl
    rw [releasePlace, hstep, Source.inOrder, List.getElem?_cons_succ, List.getElem?_map,
      Option.elim_map]
    simp [Function.comp_def]

/-- Of two released nodes, the one that is released at the lesser point comes first. -/
theorem idxOf_lt_idxOf_iff_releasePoint_lt (edges : Edges) :
    ∀ u ∈ releaseOrder edges, ∀ v ∈ releaseOrder edges,
      ((releaseOrder edges).idxOf u < (releaseOrder edges).idxOf v ↔
        toLex (releasePoint edges u) < toLex (releasePoint edges v)) := by
  intro u hu v hv
  rw [idxOf_lt_idxOf_iff_releaseKey_lt hu hv, releaseKey_lt_iff, Prod.Lex.toLex_lt_toLex,
    releasePoint_eq hu, releasePoint_eq hv]
  simp only
  omega

/-- A node is listed twice, and released at the later place. -/
def listedTwice : Edges := [[1, 2, 1], [], [], [3]]

/-- The repeated node has the later of its two places, and comes last. -/
theorem releasePoint_lt_listedTwice :
    releasePoint listedTwice 0 = (-1, 0) ∧ releasePoint listedTwice 2 = (0, 1) ∧
      releasePoint listedTwice 1 = (0, 2) ∧
      (releaseOrder listedTwice).idxOf 2 < (releaseOrder listedTwice).idxOf 1 := by
  have hfirst : releasePoint listedTwice 2 = (0, 1) := by decide +kernel
  have hsecond : releasePoint listedTwice 1 = (0, 2) := by decide +kernel
  refine ⟨by decide +kernel, hfirst, hsecond, ?_⟩
  apply (idxOf_lt_idxOf_iff_releasePoint_lt listedTwice 2 (by decide +kernel) 1
    (by decide +kernel)).mpr
  rw [hfirst, hsecond, Prod.Lex.toLex_lt_toLex]
  decide

end ShellInit
