import ShellInit.Proofs.Arrangement

/-!
# Arranging a part of the directives

Items are kept or left out. If no kept directive waits for one that is left out, the kept items alone
are arranged as they are arranged among all items. The numbers of the kept items change when the
others are left out, so the two graphs are related by the places of the kept items.
-/

namespace ShellInit

variable {α : Type*} (keep : α → Bool) (items : List α)

/-- Whether no item that is left out stands at a position. -/
def keptAt (i : Nat) : Bool := items[i]?.all keep

def keptPositions : List Nat := (List.range items.length).filter (keptAt keep items)

/-- Where a kept item stands among all; numbers beyond the kept items go beyond all items. -/
def keptPlace (i : Nat) : Nat := (keptPositions keep items)[i]?.getD (items.length + i)

/-- To look items up and leave some out is to leave out their positions first. -/
theorem filter_filterMap_getElem? (order : List Nat) :
    (order.filterMap (items[·]?)).filter keep =
      (order.filter (keptAt keep items)).filterMap (items[·]?) := by
  rw [List.filter_filterMap, List.filterMap_filter]
  congr 1
  funext i
  cases hitem : items[i]? with
  | none => simp
  | some x => cases hkeep : keep x <;> simp [keptAt, hitem, hkeep]

theorem map_some_filter :
    (items.filter keep).map some = (keptPositions keep items).map (items[·]?) := by
  have hfilter := filter_filterMap_getElem? keep items (List.range items.length)
  rw [filterMap_range_getElem?] at hfilter
  rw [hfilter, keptPositions]
  apply map_some_filterMap
  intro i hi
  have hlt := List.mem_range.mp (List.mem_of_mem_filter hi)
  simp [hlt]

theorem length_keptPositions : (keptPositions keep items).length = (items.filter keep).length := by
  have h := congrArg List.length (map_some_filter keep items)
  simpa using h.symm

theorem keptPlace_of_lt {i : Nat} (h : i < (keptPositions keep items).length) :
    keptPlace keep items i = (keptPositions keep items)[i] := by
  simp [keptPlace, h]

theorem keptPlace_of_le {i : Nat} (h : (keptPositions keep items).length ≤ i) :
    keptPlace keep items i = items.length + i := by
  simp [keptPlace, h]

theorem keptPositions_getElem_lt {i : Nat} (h : i < (keptPositions keep items).length) :
    (keptPositions keep items)[i] < items.length :=
  List.mem_range.mp (List.mem_of_mem_filter (List.getElem_mem h))

/-- At its place among all items stands what stands among the kept ones. -/
theorem getElem?_keptPlace (i : Nat) : items[keptPlace keep items i]? = (items.filter keep)[i]? := by
  rcases Nat.lt_or_ge i (keptPositions keep items).length with hi | hi
  · have hsome := congrArg (·[i]?) (map_some_filter keep items)
    have hi' : i < (items.filter keep).length := by rwa [← length_keptPositions]
    rw [keptPlace_of_lt keep items hi]
    simpa [hi, hi'] using hsome.symm
  · rw [keptPlace_of_le keep items hi, List.getElem?_eq_none (by omega), List.getElem?_eq_none]
    rwa [← length_keptPositions]

theorem keptPlace_injective : Function.Injective (keptPlace keep items) := by
  intro i j h
  rcases Nat.lt_or_ge i (keptPositions keep items).length with hi | hi <;>
    rcases Nat.lt_or_ge j (keptPositions keep items).length with hj | hj
  · rw [keptPlace_of_lt keep items hi, keptPlace_of_lt keep items hj] at h
    have hnodup : (keptPositions keep items).Nodup := List.nodup_range.filter _
    exact hnodup.getElem_inj_iff.mp h
  · have hlt := keptPositions_getElem_lt keep items hi
    rw [keptPlace_of_lt keep items hi, keptPlace_of_le keep items hj] at h
    omega
  · have hlt := keptPositions_getElem_lt keep items hj
    rw [keptPlace_of_le keep items hi, keptPlace_of_lt keep items hj] at h
    omega
  · rw [keptPlace_of_le keep items hi, keptPlace_of_le keep items hj] at h
    omega

/-- The places of the kept items, one after the other, are their positions among all. -/
theorem keptPositions_eq_map :
    keptPositions keep items =
      (List.range (items.filter keep).length).map (keptPlace keep items) := by
  apply List.ext_getElem
  · simp [length_keptPositions]
  · intro i hi hi'
    rw [List.getElem_map, List.getElem_range, keptPlace_of_lt keep items hi]

variable {keep items} {directive : α → Directive}

/-- The directives kept are a part of the graph if they wait for no other. -/
theorem isPart_filter
    (h : ∀ x ∈ items, ∀ y ∈ items, keep x = false → keep y = true →
      (directive y).waitsFor (directive x) = false) :
    IsPart (keptPlace keep items) (keptAt keep items) (dependents (items.map directive))
      (dependents ((items.filter keep).map directive)) where
  injective := keptPlace_injective keep items
  keep_place i := by
    rw [keptAt, getElem?_keptPlace, Option.all_eq_true]
    intro x hx
    exact List.of_mem_filter (List.mem_of_getElem? hx)
  range := by
    rw [length_dependents, length_dependents, List.length_map, List.length_map]
    exact keptPositions_eq_map keep items
  targets_place i := by
    have hwaits (j : Nat) :
        waitsAt (items.map directive) (keptPlace keep items i) (keptPlace keep items j) =
          waitsAt ((items.filter keep).map directive) i j := by
      simp only [waitsAt, List.getElem?_map, getElem?_keptPlace]
    rw [targets_dependents, targets_dependents, List.length_map, List.length_map, List.filter_comm,
      ← keptPositions, keptPositions_eq_map, List.filter_map]
    congr 1
    apply List.filter_congr
    intro j _
    exact hwaits j
  targets_left_out u hu := by
    rw [targets_dependents, List.filter_filter, List.filter_eq_nil_iff]
    intro j _ hj
    obtain ⟨hkeep, hwaits⟩ := Bool.and_eq_true_iff.mp hj
    obtain ⟨d, e, hd, he, hwaits⟩ := waitsAt_eq_true_iff.mp hwaits
    rw [List.getElem?_map] at hd he
    obtain ⟨x, hx, rfl⟩ := Option.map_eq_some_iff.mp hd
    obtain ⟨y, hy, rfl⟩ := Option.map_eq_some_iff.mp he
    have hx' : keep x = false := by simpa [keptAt, hx] using hu
    have hy' : keep y = true := by simpa [keptAt, hy] using hkeep
    rw [h x (List.mem_of_getElem? hx) y (List.mem_of_getElem? hy) hx' hy'] at hwaits
    exact Bool.false_ne_true hwaits

/-- The kept items alone are arranged as among all items. -/
theorem arranged_filter
    (h : ∀ x ∈ items, ∀ y ∈ items, keep x = false → keep y = true →
      (directive y).waitsFor (directive x) = false) :
    arranged directive (items.filter keep) = (arranged directive items).filter keep := by
  have horder := (isPart_filter h).filter_releaseOrder
  calc
    _ = (releaseOrder (dependents ((items.filter keep).map directive))).filterMap
          (fun i ↦ items[keptPlace keep items i]?) := by
      simp only [arranged, getElem?_keptPlace]
    _ = ((releaseOrder (dependents (items.map directive))).filter
          (keptAt keep items)).filterMap (items[·]?) := by
      rw [horder, List.filterMap_map]
      rfl
    _ = (arranged directive items).filter keep := by
      rw [arranged, filter_filterMap_getElem?]

end ShellInit
