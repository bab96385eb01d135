import Mathlib.Data.List.Chain
import Mathlib.Order.Lattice.Nat
import ShellInit.Proofs.Arrangement.Part
import ShellInit.Proofs.Order.ReleasePoint

/-!
# Depth of directives

The depth of a directive is the length of the longest chain of directives that wait for each other
and for which it waits. No step of the arrangement computes it, but a directive is released by the
last of those it waits for, and the deepest of these comes last: so directives are arranged by
depth, and those that wait for the same directives keep the order of declaration.
-/

open scoped List

namespace ShellInit

/-! ## Chains of a relation -/

section Depth

variable {α : Type*} {r : α → α → Prop} {a b : α} {n m : Nat}

/-- A chain of `n` values, each related to the next, ends in one that is related to the value. -/
def HasChain (r : α → α → Prop) (a : α) (n : Nat) : Prop :=
  ∃ chain : List α, chain.length = n ∧ (chain ++ [a]).IsChain r

/-- The longest chain that ends in a value has length `n`. -/
def IsDepth (r : α → α → Prop) (a : α) (n : Nat) : Prop := IsGreatest {m | HasChain r a m} n

theorem hasChain_zero : HasChain r a 0 := ⟨[], rfl, List.isChain_singleton a⟩

/-- A longer chain ends in a value whose predecessor ends a shorter one. -/
theorem hasChain_succ_iff : HasChain r a (n + 1) ↔ ∃ b, r b a ∧ HasChain r b n := by
  constructor
  · rintro ⟨chain, hlength, hchain⟩
    rcases List.eq_nil_or_concat' chain with rfl | ⟨front, b, rfl⟩
    · simp at hlength
    · rw [List.append_assoc, List.singleton_append, List.isChain_append_cons_cons] at hchain
      exact ⟨b, hchain.2.1, front, by simpa using hlength, hchain.1⟩
  · rintro ⟨b, hba, chain, hlength, hchain⟩
    refine ⟨chain ++ [b], by simp [hlength], ?_⟩
    rw [List.append_assoc, List.singleton_append, List.isChain_append_cons_cons]
    exact ⟨hchain, hba, List.isChain_singleton a⟩

/-- What nothing leads to has depth zero, and nothing else has. -/
theorem isDepth_zero_iff : IsDepth r a 0 ↔ ∀ b, ¬r b a := by
  constructor
  · intro ha b hba
    have hle := ha.2 (hasChain_succ_iff.mpr ⟨b, hba, hasChain_zero⟩)
    omega
  · intro hnone
    refine ⟨hasChain_zero, ?_⟩
    intro m hm
    cases m with
    | zero => exact le_rfl
    | succ m =>
      obtain ⟨b, hba, _⟩ := hasChain_succ_iff.mp hm
      exact absurd hba (hnone b)

/-- If chains are bounded, there is a longest one. -/
theorem exists_isDepth {bound : Nat} (h : ∀ m, HasChain r a m → m ≤ bound) :
    ∃ n, IsDepth r a n := by
  have hbounded : BddAbove {m | HasChain r a m} := ⟨bound, fun m hm ↦ h m hm⟩
  exact ⟨_, Nat.sSup_mem ⟨0, hasChain_zero⟩ hbounded, fun m hm ↦ le_csSup hbounded hm⟩

namespace IsDepth

/-- What leads to a value is less deep. -/
theorem lt_of_rel (ha : IsDepth r a n) (hb : IsDepth r b m) (h : r b a) : m < n :=
  ha.2 (hasChain_succ_iff.mpr ⟨b, h, hb.1⟩)

/-- What leads to a value that has a depth has a lesser depth itself. -/
theorem exists_of_rel (ha : IsDepth r a n) (h : r b a) : ∃ m, m < n ∧ IsDepth r b m := by
  have hbound : ∀ m, HasChain r b m → m ≤ n := fun m hm ↦
    Nat.le_of_succ_le (ha.2 (hasChain_succ_iff.mpr ⟨b, h, hm⟩))
  obtain ⟨m, hm⟩ := exists_isDepth hbound
  exact ⟨m, ha.lt_of_rel hm h, hm⟩

/-- What only values of one depth lead to is one step deeper. -/
theorem succ (hb : IsDepth r b n) (hba : r b a) (hall : ∀ c, r c a → IsDepth r c n) :
    IsDepth r a (n + 1) := by
  refine ⟨hasChain_succ_iff.mpr ⟨b, hba, hb.1⟩, ?_⟩
  intro m hm
  cases m with
  | zero => exact Nat.zero_le _
  | succ m =>
    obtain ⟨c, hca, hchain⟩ := hasChain_succ_iff.mp hm
    exact Nat.succ_le_succ ((hall c hca).2 hchain)

/-- Something that leads to a value is only one step less deep. -/
theorem exists_rel (ha : IsDepth r a (n + 1)) : ∃ b, r b a ∧ IsDepth r b n := by
  obtain ⟨b, hba, hchain⟩ := hasChain_succ_iff.mp ha.1
  refine ⟨b, hba, hchain, ?_⟩
  intro m hm
  exact Nat.le_of_succ_le_succ (ha.2 (hasChain_succ_iff.mpr ⟨b, hba, hm⟩))

end IsDepth

end Depth

/-! ## Numbers of directives -/

section Numbers

variable {ds : List Directive} {d e : Directive} {i j : Nat}

/-- What leads to the position of a directive are the positions of the directives it waits for. -/
theorem exists_gates_of_edge (he : ds[j]? = some e) (h : IsEdge (dependents ds) i j) :
    ∃ d, ds[i]? = some d ∧ Gates ds d e := by
  obtain ⟨d, e', hd, he', hgates⟩ := isEdge_iff_gates.mp h
  obtain rfl : e = e' := Option.some.inj (he.symm.trans he')
  exact ⟨d, hd, hgates⟩

/-- Without a circle every directive is released. -/
theorem mem_releaseOrder_of_getElem? (hacyclic : ¬Cyclic ds) (hd : ds[i]? = some d) :
    i ∈ releaseOrder (dependents ds) := by
  rw [(releaseOrder_perm hacyclic).mem_iff, List.mem_range]
  exact (List.getElem?_eq_some_iff.mp hd).1

/-- A directive of smaller depth is released before one of greater depth. -/
theorem pair_sublist_releaseOrder_of_depth_lt (hacyclic : ¬Cyclic ds) {n m : Nat}
    (hd : ds[i]? = some d) (he : ds[j]? = some e) (hn : IsDepth (Gates ds) d n)
    (hm : IsDepth (Gates ds) e m) (hlt : n < m) : [i, j] <+ releaseOrder (dependents ds) := by
  -- By induction on the smaller depth: what the first waits for is less deep than the first.
  induction n using Nat.strong_induction_on generalizing i j d e m with
  | _ n ih =>
    obtain ⟨m, rfl⟩ := Nat.exists_eq_add_of_lt hlt
    obtain ⟨b, hbe, hb⟩ := hm.exists_rel
    obtain ⟨k, hk⟩ := List.getElem?_of_mem hbe.1
    have hedge : IsEdge (dependents ds) k j := isEdge_iff_gates.mpr ⟨b, e, hk, he, hbe⟩
    obtain ⟨before, after, hsplit⟩ :=
      List.append_of_mem (mem_releaseOrder_of_getElem? hacyclic hk)
    refine pair_sublist_releaseOrder_of_before hsplit ?_ ?_
      (mem_releaseOrder_of_getElem? hacyclic he) hedge
    · exact lt_of_mem_releaseOrder (mem_releaseOrder_of_getElem? hacyclic hd)
    · -- The deepest that the second waits for is deeper than everything that the first waits for.
      intro l hl
      obtain ⟨w, hw, hwd⟩ := exists_gates_of_edge hd hl
      obtain ⟨n', hlt', hn'⟩ := hn.exists_of_rel hwd
      have hpair := ih n' hlt' hw hk hn' hb (by omega)
      have hnodup := nodup_releaseOrder (dependents ds)
      rw [hsplit] at hpair hnodup
      exact mem_of_pair_sublist hnodup hpair

/-- Directives that wait for the same keep the order of declaration. -/
theorem pair_sublist_releaseOrder_of_same_gates (hacyclic : ¬Cyclic ds) (hd : ds[i]? = some d)
    (he : ds[j]? = some e) (hsame : ∀ b, Gates ds b d ↔ Gates ds b e) (hlt : i < j) :
    [i, j] <+ releaseOrder (dependents ds) := by
  refine pair_sublist_releaseOrder_of_same ?_ (mem_releaseOrder_of_getElem? hacyclic hd)
    (mem_releaseOrder_of_getElem? hacyclic he) ?_ hlt
  · intro source
    cases source with
    | start => exact List.pairwise_lt_range
    | node k =>
      rw [targets_dependents]
      exact List.pairwise_lt_range.filter _
  · intro k
    constructor
    · intro hedge
      obtain ⟨b, hb, hgates⟩ := exists_gates_of_edge hd hedge
      exact isEdge_iff_gates.mpr ⟨b, e, hb, he, (hsame b).mp hgates⟩
    · intro hedge
      obtain ⟨b, hb, hgates⟩ := exists_gates_of_edge he hedge
      exact isEdge_iff_gates.mpr ⟨b, d, hb, hd, (hsame b).mpr hgates⟩

/-- A directive that waits for none is ready at the start. -/
theorem ready_start_dependents_iff (hd : ds[i]? = some d) :
    Ready (dependents ds) [.start] i ↔ ∀ b ∈ ds, ¬Gates ds b d := by
  have hi : i < (dependents ds).length := by
    rw [length_dependents]
    exact (List.getElem?_eq_some_iff.mp hd).1
  rw [ready_start_iff, and_iff_right hi]
  constructor
  · intro hnone b _ hgates
    obtain ⟨k, hk⟩ := List.getElem?_of_mem hgates.1
    exact hnone k (isEdge_iff_gates.mpr ⟨b, d, hk, hd, hgates⟩)
  · intro hnone k hedge
    obtain ⟨b, _, hgates⟩ := exists_gates_of_edge hd hedge
    exact hnone b hgates.1 hgates

end Numbers

/-! ## Arranged items -/

section Arranged

variable {α : Type*} {directive : α → Directive} {items : List α} {x y : α}

theorem pair_sublist_arranged {i j : Nat} (hx : items[i]? = some x) (hy : items[j]? = some y)
    (h : [i, j] <+ releaseOrder (dependents (items.map directive))) :
    [x, y] <+ arranged directive items := by
  have hpair := h.filterMap (items[·]?)
  rwa [List.filterMap_cons_some hx, List.filterMap_cons_some hy, List.filterMap_nil] at hpair

/-- Of two items the one of smaller depth is arranged first. -/
theorem pair_sublist_arranged_of_depth_lt (hacyclic : ¬Cyclic (items.map directive))
    (hx : x ∈ items) (hy : y ∈ items) {n m : Nat}
    (hn : IsDepth (Gates (items.map directive)) (directive x) n)
    (hm : IsDepth (Gates (items.map directive)) (directive y) m) (hlt : n < m) :
    [x, y] <+ arranged directive items := by
  obtain ⟨i, hi⟩ := List.getElem?_of_mem hx
  obtain ⟨j, hj⟩ := List.getElem?_of_mem hy
  exact pair_sublist_arranged hi hj (pair_sublist_releaseOrder_of_depth_lt hacyclic
    (by simp [hi]) (by simp [hj]) hn hm hlt)

theorem pair_sublist_arranged_of_same_gates (hacyclic : ¬Cyclic (items.map directive))
    (hxy : [x, y] <+ items)
    (hsame : ∀ b, Gates (items.map directive) b (directive x) ↔
      Gates (items.map directive) b (directive y)) :
    [x, y] <+ arranged directive items := by
  obtain ⟨first, rest, rfl, hx, hy⟩ := List.cons_sublist_iff.mp hxy
  obtain ⟨i, hi⟩ := List.getElem?_of_mem hx
  obtain ⟨j, hj⟩ := List.getElem?_of_mem (List.singleton_sublist.mp hy)
  have hlt := (List.getElem?_eq_some_iff.mp hi).1
  have hi' : (first ++ rest)[i]? = some x := by rw [List.getElem?_append_left hlt, hi]
  have hj' : (first ++ rest)[first.length + j]? = some y := by
    rw [List.getElem?_append_right (Nat.le_add_right _ _), Nat.add_sub_cancel_left, hj]
  exact pair_sublist_arranged hi' hj' (pair_sublist_releaseOrder_of_same_gates hacyclic
    (by simp only [List.getElem?_map, hi', Option.map_some])
    (by simp only [List.getElem?_map, hj', Option.map_some]) hsame (by omega))

/-- A directive is no deeper than the number of directives before it. -/
theorem le_of_hasChain_arranged (hacyclic : ¬Cyclic (items.map directive)) {n p : Nat}
    (hp : p < (arranged directive items).length)
    (h : HasChain (Gates (items.map directive)) (directive (arranged directive items)[p]) n) :
    n ≤ p := by
  induction n generalizing p with
  | zero => exact Nat.zero_le p
  | succ n ih =>
    obtain ⟨b, hgates, hchain⟩ := hasChain_succ_iff.mp h
    obtain ⟨x, hx, rfl⟩ := List.mem_map.mp hgates.1
    obtain ⟨q, hq, rfl⟩ := List.getElem_of_mem ((arranged_perm hacyclic).mem_iff.mpr hx)
    have hlt := lt_of_gates_arranged hq hp (.single hgates)
    have hle := ih hq hchain
    omega

/-- Without a circle every item has a depth. -/
theorem exists_isDepth_of_mem (hacyclic : ¬Cyclic (items.map directive)) (hx : x ∈ items) :
    ∃ n, IsDepth (Gates (items.map directive)) (directive x) n := by
  obtain ⟨p, hp, rfl⟩ := List.getElem_of_mem ((arranged_perm hacyclic).mem_iff.mpr hx)
  exact exists_isDepth fun m hm ↦ le_of_hasChain_arranged hacyclic hp hm

def isFree (directive : α → Directive) (items : List α) (x : α) : Bool :=
  ∀ b ∈ items.map directive, ¬Gates (items.map directive) b (directive x)

theorem isFree_eq_false_iff :
    isFree directive items x = false ↔ ∃ b, Gates (items.map directive) b (directive x) := by
  simp only [isFree, decide_eq_false_iff_not, not_forall, not_not]
  constructor
  · rintro ⟨b, _, hgates⟩
    exact ⟨b, hgates⟩
  · rintro ⟨b, hgates⟩
    exact ⟨b, hgates.1, hgates⟩

theorem keptAt_isFree {i : Nat} (hi : i < items.length) :
    keptAt (isFree directive items) items i = true ↔
      Ready (dependents (items.map directive)) [.start] i := by
  have hitem : (items.map directive)[i]? = some (directive items[i]) := by simp [hi]
  rw [ready_start_dependents_iff hitem, keptAt, List.getElem?_eq_getElem hi, Option.all_some,
    isFree, decide_eq_true_iff]

/-- What waits for none comes first, in the order of declaration. -/
theorem exists_arranged_eq_append (directive : α → Directive) (items : List α) :
    ∃ rest, arranged directive items = items.filter (isFree directive items) ++ rest ∧
      ∀ x ∈ rest, ∃ b, Gates (items.map directive) b (directive x) := by
  obtain ⟨rest, horder, hrest⟩ := exists_releaseOrder_eq_append (dependents (items.map directive))
  rw [length_dependents, List.length_map] at horder
  refine ⟨rest.filterMap (items[·]?), ?_, ?_⟩
  · have hfree := filter_filterMap_getElem? (isFree directive items) items
      (List.range items.length)
    rw [filterMap_range_getElem?] at hfree
    have hready : (List.range items.length).filter
        (Ready (dependents (items.map directive)) [.start]) =
          (List.range items.length).filter (keptAt (isFree directive items) items) := by
      apply List.filter_congr
      intro i hi
      rw [← Bool.coe_iff_coe, keptAt_isFree (List.mem_range.mp hi), decide_eq_true_iff]
    rw [arranged, horder, List.filterMap_append, hready, ← hfree]
  · intro x hx
    obtain ⟨i, hi, hitem⟩ := List.mem_filterMap.mp hx
    obtain ⟨hlt, rfl⟩ := List.getElem?_eq_some_iff.mp hitem
    have hbusy := (keptAt_isFree hlt).not.mpr (hrest i hi)
    rw [← isFree_eq_false_iff]
    simpa [keptAt, hlt] using hbusy

end Arranged

end ShellInit
