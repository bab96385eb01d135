import ShellInit.Compile
import ShellInit.Proofs.Order.Projection
import ShellInit.Proofs.Order.Release

/-!
# Arranging directives

The edges between directives are read off labels and dependencies, so what is known of released
nodes becomes a statement about directives: an arrangement exists exactly if none of them waits for
itself over others, it is a permutation, and each directive follows those it waits for. Directives
that nobody else waits for can be left out without moving the rest.
-/

open Relation

namespace ShellInit

/-! ## Waiting -/

/-- Within a list, the second directive waits for the first. -/
def Gates (ds : List Directive) (d e : Directive) : Prop :=
  d ∈ ds ∧ e ∈ ds ∧ d.label ≠ "" ∧ d.label ∈ e.depends

/-- Some directive of the list waits for itself, maybe over others. -/
def Cyclic (ds : List Directive) : Prop := ∃ d, TransGen (Gates ds) d d

instance (ds : List Directive) (d e : Directive) : Decidable (Gates ds d e) :=
  inferInstanceAs (Decidable (d ∈ ds ∧ e ∈ ds ∧ d.label ≠ "" ∧ d.label ∈ e.depends))

theorem Directive.waitsFor_iff (e d : Directive) :
    e.waitsFor d = true ↔ d.label ≠ "" ∧ d.label ∈ e.depends := by
  simp [Directive.waitsFor, Directive.isLabeled, Directive.dependsOn]

theorem gates_iff {ds : List Directive} {d e : Directive} :
    Gates ds d e ↔ d ∈ ds ∧ e ∈ ds ∧ e.waitsFor d = true := by
  rw [Gates, Directive.waitsFor_iff]

theorem Gates.mono {ds ds' : List Directive} (hsub : ds ⊆ ds') {d e : Directive}
    (h : Gates ds d e) : Gates ds' d e := ⟨hsub h.1, hsub h.2.1, h.2.2⟩

theorem Cyclic.mono {ds ds' : List Directive} (hsub : ds ⊆ ds') (h : Cyclic ds) : Cyclic ds' := by
  obtain ⟨d, hcycle⟩ := h
  have hle : Gates ds ≤ Gates ds' := fun _ _ ↦ Gates.mono hsub
  exact ⟨d, TransGen.mono hle d d hcycle⟩

def waitsAt (ds : List Directive) (i j : Nat) : Bool :=
  ds[j]?.any fun e ↦ ds[i]?.any fun d ↦ e.waitsFor d

theorem waitsAt_eq_true_iff {ds : List Directive} {i j : Nat} :
    waitsAt ds i j = true ↔
      ∃ d e, ds[i]? = some d ∧ ds[j]? = some e ∧ e.waitsFor d = true := by
  simp only [waitsAt, Option.any_eq_true]
  constructor
  · rintro ⟨e, he, d, hd, h⟩
    exact ⟨d, e, hd, he, h⟩
  · rintro ⟨d, e, hd, he, h⟩
    exact ⟨e, he, d, hd, h⟩

theorem filterMap_zipIdx_eq_filter_range {α : Type*} (p : α → Bool) (l : List α) :
    (l.zipIdx.filterMap fun x ↦ if p x.1 then some x.2 else none) =
      (List.range l.length).filter fun i ↦ l[i]?.any p := by
  induction l using List.reverseRecOn with
  | nil => rfl
  | append_singleton l x ih =>
    have hprefix : (List.range l.length).filter (fun i ↦ (l ++ [x])[i]?.any p) =
        (List.range l.length).filter fun i ↦ l[i]?.any p := by
      apply List.filter_congr
      intro i hi
      rw [List.getElem?_append_left (List.mem_range.mp hi)]
    rw [List.zipIdx_append, List.filterMap_append, ih, List.length_append, List.length_singleton,
      List.range_succ, List.filter_append, hprefix]
    cases hp : p x <;> simp [hp]

@[simp]
theorem length_dependents (ds : List Directive) : (dependents ds).length = ds.length := by
  simp [dependents]

theorem targets_dependents (ds : List Directive) (i : Nat) :
    (Source.node i).targets (dependents ds) = (List.range ds.length).filter (waitsAt ds i) := by
  cases hd : ds[i]? with
  | none => simp [Source.targets, dependents, waitsAt, hd]
  | some d =>
    have htargets : (Source.node i).targets (dependents ds) =
        ds.zipIdx.filterMap fun x ↦ if x.1.waitsFor d then some x.2 else none := by
      simp [Source.targets, dependents, hd]
    rw [htargets, filterMap_zipIdx_eq_filter_range fun e : Directive ↦ e.waitsFor d]
    congr 1
    funext j
    simp [waitsAt, hd]

/-- An edge between two positions means that the directive at the second waits for the one at the
first. -/
theorem isEdge_dependents_iff {ds : List Directive} {i j : Nat} :
    IsEdge (dependents ds) i j ↔
      ∃ d e, ds[i]? = some d ∧ ds[j]? = some e ∧ e.waitsFor d = true := by
  rw [IsEdge, targets_dependents, List.mem_filter, waitsAt_eq_true_iff, length_dependents,
    List.mem_range]
  constructor
  · rintro ⟨_, _, h⟩
    exact h
  · rintro ⟨d, e, hd, he, h⟩
    have hj := (List.getElem?_eq_some_iff.mp he).1
    exact ⟨hj, hj, d, e, hd, he, h⟩

/-- Edges between positions are the gates between the directives there. -/
theorem isEdge_iff_gates {ds : List Directive} {i j : Nat} :
    IsEdge (dependents ds) i j ↔
      ∃ d e, ds[i]? = some d ∧ ds[j]? = some e ∧ Gates ds d e := by
  rw [isEdge_dependents_iff]
  constructor
  · rintro ⟨d, e, hd, he, h⟩
    have hgates := gates_iff.mpr ⟨List.mem_of_getElem? hd, List.mem_of_getElem? he, h⟩
    exact ⟨d, e, hd, he, hgates⟩
  · rintro ⟨d, e, hd, he, hgates⟩
    exact ⟨d, e, hd, he, (gates_iff.mp hgates).2.2⟩

/-- Edges depend on nothing but who waits for whom. -/
theorem dependents_congr {α : Type*} {f g : α → Directive} {items : List α}
    (h : ∀ x ∈ items, ∀ y ∈ items, (f y).waitsFor (f x) = (g y).waitsFor (g x)) :
    dependents (items.map f) = dependents (items.map g) := by
  simp only [dependents, List.map_map, List.zipIdx_map, List.filterMap_map]
  apply List.map_congr_left
  intro x hx
  apply List.filterMap_congr
  rintro ⟨y, i⟩ hy
  have hwaits := h x hx y (List.fst_mem_of_mem_zipIdx hy)
  simp [hwaits]

/-! ## Cycles -/

/-- Paths between positions come from chains of waiting directives. -/
theorem exists_gates_of_isEdge {ds : List Directive} {i j : Nat}
    (h : TransGen (IsEdge (dependents ds)) i j) :
    ∃ d e, ds[i]? = some d ∧ ds[j]? = some e ∧ TransGen (Gates ds) d e := by
  induction h with
  | single hedge =>
    obtain ⟨d, e, hd, he, hgates⟩ := isEdge_iff_gates.mp hedge
    exact ⟨d, e, hd, he, .single hgates⟩
  | tail _ hedge ih =>
    obtain ⟨d, b, hd, hb, hpath⟩ := ih
    obtain ⟨b', e, hb', he, hgates⟩ := isEdge_iff_gates.mp hedge
    obtain rfl : b = b' := Option.some.inj (hb.symm.trans hb')
    exact ⟨d, e, hd, he, hpath.tail hgates⟩

/-- A chain of waiting directives leads along edges, wherever its two ends are declared. -/
theorem isEdge_of_gates {ds : List Directive} {d e : Directive} (h : TransGen (Gates ds) d e)
    {i j : Nat} (hi : ds[i]? = some d) (hj : ds[j]? = some e) :
    TransGen (IsEdge (dependents ds)) i j := by
  induction h generalizing j with
  | single hgates => exact .single (isEdge_iff_gates.mpr ⟨_, _, hi, hj, hgates⟩)
  | tail _ hgates ih =>
    obtain ⟨k, hk⟩ := List.getElem?_of_mem hgates.1
    exact (ih hk).tail (isEdge_iff_gates.mpr ⟨_, _, hk, hj, hgates⟩)

/-- Directives that wait for each other in a circle are those that leave some of them unreleased. -/
theorem cyclic_iff {ds : List Directive} :
    Cyclic ds ↔ (releaseOrder (dependents ds)).length < ds.length := by
  rw [← length_dependents ds, length_releaseOrder_lt_iff]
  constructor
  · rintro ⟨d, hcycle⟩
    obtain ⟨_, hgates, _⟩ := TransGen.head'_iff.mp hcycle
    obtain ⟨i, hi⟩ := List.getElem?_of_mem hgates.1
    exact ⟨i, isEdge_of_gates hcycle hi hi⟩
  · rintro ⟨i, hcycle⟩
    obtain ⟨d, e, hd, he, hpath⟩ := exists_gates_of_isEdge hcycle
    obtain rfl : d = e := Option.some.inj (hd.symm.trans he)
    exact ⟨d, hpath⟩

/-- All directives are released if none of them waits for itself. -/
theorem releaseOrder_perm {ds : List Directive} (h : ¬Cyclic ds) :
    (releaseOrder (dependents ds)).Perm (List.range ds.length) := by
  rw [cyclic_iff, Nat.not_lt] at h
  have hsub := releaseOrder_subperm (dependents ds)
  rw [length_dependents] at hsub
  exact hsub.perm_of_length_le (by simpa using h)

/-! ## Arrangements -/

section Arranged

variable {α : Type*} (directive : α → Directive) (items : List α)

/-- Items in the order in which their directives are released. -/
def arranged : List α :=
  (releaseOrder (dependents (items.map directive))).filterMap (items[·]?)

theorem map_some_filterMap {β : Type*} {f : α → Option β} {l : List α}
    (h : ∀ x ∈ l, (f x).isSome) : (l.filterMap f).map some = l.map f := by
  induction l with
  | nil => rfl
  | cons x l ih =>
    obtain ⟨y, hy⟩ := Option.isSome_iff_exists.mp (h x List.mem_cons_self)
    rw [List.filterMap_cons_some hy, List.map_cons, List.map_cons, hy,
      ih fun x hx ↦ h x (List.mem_cons_of_mem _ hx)]

/-- No released node is without an item. -/
theorem map_some_arranged :
    (arranged directive items).map some =
      (releaseOrder (dependents (items.map directive))).map (items[·]?) := by
  apply map_some_filterMap
  intro i hi
  have hlt := lt_of_mem_releaseOrder hi
  rw [length_dependents, List.length_map] at hlt
  simp [hlt]

theorem filterMap_range_getElem? : (List.range items.length).filterMap (items[·]?) = items := by
  apply List.map_injective_iff.mpr (Option.some_injective α)
  rw [map_some_filterMap]
  · apply List.ext_getElem
    · simp
    · intro i hi hi'
      simp
  · intro i hi
    simpa using hi

/-- The arrangement of items is the one of their directives. -/
theorem map_arranged :
    (arranged directive items).map directive = arranged id (items.map directive) := by
  rw [arranged, arranged, List.map_filterMap, List.map_id]
  simp

variable {directive items}

/-- Nothing is lost and nothing doubled if no directive waits for itself. -/
theorem arranged_perm (h : ¬Cyclic (items.map directive)) : (arranged directive items).Perm items := by
  have hitems := (releaseOrder_perm h).filterMap (items[·]?)
  rw [List.length_map, filterMap_range_getElem?] at hitems
  exact hitems

theorem arranged_id_perm {ds : List Directive} (h : ¬Cyclic ds) : (arranged id ds).Perm ds :=
  arranged_perm (by rwa [List.map_id])

/-- Along chains of waiting directives, positions grow. -/
theorem lt_of_gates_arranged {p q : Nat} (hp : p < (arranged directive items).length)
    (hq : q < (arranged directive items).length)
    (h : TransGen (Gates (items.map directive))
      (directive (arranged directive items)[p]) (directive (arranged directive items)[q])) :
    p < q := by
  have hlength := congrArg List.length (map_some_arranged directive items)
  rw [List.length_map, List.length_map] at hlength
  have hitem {k : Nat} (hk : k < (arranged directive items).length) :
      (items.map directive)[(releaseOrder (dependents (items.map directive)))[k]]? =
        some (directive (arranged directive items)[k]) := by
    have hk' : k < ((arranged directive items).map some).length := by simpa using hk
    have hsome := List.getElem_of_eq (map_some_arranged directive items) hk'
    simp only [List.getElem_map] at hsome
    rw [List.getElem?_map, ← hsome, Option.map_some]
  exact lt_of_transGen_releaseOrder (by omega) (by omega)
    (isEdge_of_gates h (hitem hp) (hitem hq))

end Arranged

theorem arrange_of_cyclic {ds : List Directive} (h : Cyclic ds) : arrange ds = .error .circular := by
  rw [arrange, if_pos (cyclic_iff.mp h)]

theorem arrange_of_not_cyclic {ds : List Directive} (h : ¬Cyclic ds) :
    arrange ds = .ok (arranged id ds) := by
  rw [arrange, if_neg (cyclic_iff.not.mp h), arranged, List.map_id]

/-- Without a circle the directives come out as their items are arranged. -/
theorem arrange_map_of_not_cyclic {α : Type*} {directive : α → Directive} {items : List α}
    (h : ¬Cyclic (items.map directive)) :
    arrange (items.map directive) = .ok ((arranged directive items).map directive) := by
  rw [arrange_of_not_cyclic h, map_arranged]

/-- Directives are moved alike however else they differ. -/
theorem arrange_map {g : Directive → Directive} {ds : List Directive}
    (h : ∀ d ∈ ds, ∀ e ∈ ds, (g e).waitsFor (g d) = e.waitsFor d) :
    arrange (ds.map g) = (arrange ds).map (List.map g) := by
  have hedges : dependents (ds.map g) = dependents ds := by
    rw [← List.map_id ds, List.map_map]
    exact dependents_congr h
  simp only [arrange, hedges, List.length_map]
  split
  · rfl
  · simp [Except.map, List.map_filterMap]

theorem arrange_eq_ok_iff {ds out : List Directive} :
    arrange ds = .ok out ↔ ¬Cyclic ds ∧ arranged id ds = out := by
  by_cases h : Cyclic ds
  · simp [arrange_of_cyclic h, h]
  · simp [arrange_of_not_cyclic h, h]

theorem arrange_eq_error_iff {ds : List Directive} {error : CompileError} :
    arrange ds = .error error ↔ Cyclic ds ∧ error = .circular := by
  by_cases h : Cyclic ds
  · simp [arrange_of_cyclic h, h, eq_comm]
  · simp [arrange_of_not_cyclic h, h]

end ShellInit
