import ShellInit.Proofs.Toml.Layers

/-!
# Documents in groups

Documents may be laid over each other in any grouping, unless one of them comes between two others:
where two tables or two arrays would be joined, a value of another sort that lies between them hides
the lower one, but is itself hidden when it is first put under the upper one.
-/

namespace ShellInit.Toml

namespace Table

/-! ## Entry by entry -/

theorem mem_of_get? {t : Table} {key : String} {value : Value} (h : t.get? key = some value) :
    (key, value) ∈ t := by
  obtain ⟨_, _, rfl, _⟩ := List.lookup_eq_some_iff.mp h
  simp

/-- An entry with what a table has at its key laid over it. -/
def layOver (overlay : Table) (entry : String × Value) : String × Value :=
  (entry.1, (overlay.get? entry.1).elim entry.2 entry.2.merge)

theorem mergeShared_eq_map (base : List (String × Value)) (overlay : Table) :
    mergeShared base overlay = base.map overlay.layOver := by
  induction base with
  | nil => rfl
  | cons entry rest ih =>
    rw [mergeShared, List.map_cons, ih, layOver]
    cases overlay.get? entry.1 <;> rfl

theorem merge_eq_map_append_filter (base overlay : Table) :
    base.merge overlay =
      base.map overlay.layOver ++ overlay.filter fun entry ↦ !base.contains entry.1 := by
  rw [merge, mergeShared_eq_map]

/-- An entry of two tables is one of the overlay, or one of the base with the overlay on it. -/
theorem mem_merge {base overlay : Table} {entry : String × Value}
    (h : entry ∈ base.merge overlay) :
    entry ∈ overlay ∨ ∃ below ∈ base, entry = overlay.layOver below := by
  rw [merge_eq_map_append_filter, List.mem_append, List.mem_map] at h
  rcases h with ⟨below, hbelow, heq⟩ | hnew
  · exact .inr ⟨below, hbelow, heq.symm⟩
  · exact .inl (List.mem_of_mem_filter hnew)

theorem merge_nil (t : Table) : t.merge [] = t := by
  rw [merge_eq_map_append_filter, List.filter_nil, List.append_nil]
  exact List.map_id t

theorem contains_merge (base overlay : Table) (key : String) :
    (base.merge overlay).contains key = (base.contains key || overlay.contains key) := by
  rw [contains, contains, contains, get?_merge]
  cases base.get? key <;> cases overlay.get? key <;> rfl

/-- Tables can be grouped if this holds for the values at each key of the first one. -/
theorem merge_assoc_of_entries {a b c : Table}
    (h : ∀ entry ∈ a, ∀ middle, b.get? entry.1 = some middle → ∀ upper, c.get? entry.1 = some upper →
      (entry.2.merge middle).merge upper = entry.2.merge (middle.merge upper)) :
    (a.merge b).merge c = a.merge (b.merge c) := by
  have hshared : (a.map b.layOver).map c.layOver = a.map (b.merge c).layOver := by
    rw [List.map_map]
    apply List.map_congr_left
    intro entry hentry
    have hvalues := h entry hentry
    simp only [Function.comp_apply, layOver, get?_merge]
    cases hb : b.get? entry.1 <;> cases hc : c.get? entry.1 <;> simp_all
  have hmiddle : (b.filter fun entry ↦ !a.contains entry.1).map c.layOver =
      (b.map c.layOver).filter fun entry ↦ !a.contains entry.1 := by
    rw [List.filter_map]
    rfl
  have hupper : (c.filter fun entry ↦ !(a.merge b).contains entry.1) =
      (c.filter fun entry ↦ !b.contains entry.1).filter fun entry ↦ !a.contains entry.1 := by
    rw [List.filter_filter]
    simp only [contains_merge, Bool.not_or]
  calc
    (a.merge b).merge c =
        (a.map b.layOver).map c.layOver ++ (b.filter fun entry ↦ !a.contains entry.1).map c.layOver ++
          c.filter fun entry ↦ !(a.merge b).contains entry.1 := by
      rw [merge_eq_map_append_filter, merge_eq_map_append_filter a b, List.map_append]
    _ = a.map (b.merge c).layOver ++ ((b.map c.layOver).filter (fun entry ↦ !a.contains entry.1) ++
          (c.filter fun entry ↦ !b.contains entry.1).filter fun entry ↦ !a.contains entry.1) := by
      rw [hshared, hmiddle, hupper, List.append_assoc]
    _ = a.merge (b.merge c) := by
      rw [merge_eq_map_append_filter a, merge_eq_map_append_filter b c, List.filter_append]

end Table

/-! ## Values between others -/

/-- A fact holds of all values if it holds of a table as soon as it holds of the values in it, and of
everything else. -/
@[elab_as_elim]
theorem Value.inductionOnEntries {motive : Value → Prop}
    (table : ∀ entries : Table, (∀ entry ∈ entries, motive entry.2) → motive (.table entries))
    (other : ∀ value : Value, value.container? ≠ some .table → motive value) (value : Value) :
    motive value := by
  match value with
  | .table entries =>
    apply table
    rintro ⟨key, value⟩ hentry
    exact inductionOnEntries table other value
  | .array _ | .string _ | .integer _ | .float _ | .boolean _ | .moment _ =>
    apply other
    nofun
termination_by sizeOf value
decreasing_by
  have hsize := List.sizeOf_lt_of_mem hentry
  rw [Prod.mk.sizeOf_spec] at hsize
  rw [Value.table.sizeOf_spec]
  omega

/-- Whether a path of keys leads from a value to another one. -/
def Value.Holds : Value → List String → Value → Prop
  | value, [], inner => inner = value
  | .table entries, key :: path, inner => ∃ value, (key, value) ∈ entries ∧ value.Holds path inner
  | _, _ :: _, _ => False

namespace Value

theorem holds_cons_iff {value inner : Value} {key : String} {path : List String} :
    value.Holds (key :: path) inner ↔
      ∃ entries next, value = .table entries ∧ (key, next) ∈ entries ∧ next.Holds path inner := by
  cases value <;> simp [Holds]

theorem container?_eq_array_iff {value : Value} :
    value.container? = some .array ↔ ∃ items, value = .array items := by
  cases value <;> simp [container?]

theorem container?_eq_table_iff {value : Value} :
    value.container? = some .table ↔ ∃ entries : Table, value = .table entries := by
  cases value <;> simp [container?]

/-- At some path the lower and the upper value both hold a table or both hold an array, and the value
in the middle holds something else. -/
def Separated (lower middle upper : Value) : Prop :=
  ∃ path l m u, lower.Holds path l ∧ middle.Holds path m ∧ upper.Holds path u ∧
    l.container? ≠ none ∧ u.container? = l.container? ∧ m.container? ≠ l.container?

/-- In tables, only values at a common key are separated. -/
theorem separated_table_iff {a b c : Table} :
    Separated (.table a) (.table b) (.table c) ↔
      ∃ key l m u, (key, l) ∈ a ∧ (key, m) ∈ b ∧ (key, u) ∈ c ∧ Separated l m u := by
  constructor
  · rintro ⟨path, l, m, u, hl, hm, hu, hsorts⟩
    cases path with
    | nil =>
      rw [Holds] at hl hm
      rw [hl, hm] at hsorts
      exact absurd rfl hsorts.2.2
    | cons key path =>
      obtain ⟨lower, hlower, hl⟩ := hl
      obtain ⟨middle, hmiddle, hm⟩ := hm
      obtain ⟨upper, hupper, hu⟩ := hu
      exact ⟨key, lower, middle, upper, hlower, hmiddle, hupper, path, l, m, u, hl, hm, hu, hsorts⟩
  · rintro ⟨key, lower, middle, upper, hlower, hmiddle, hupper, path, l, m, u, hl, hm, hu, hsorts⟩
    exact ⟨key :: path, l, m, u, ⟨lower, hlower, hl⟩, ⟨middle, hmiddle, hm⟩, ⟨upper, hupper, hu⟩,
      hsorts⟩

/-- If the three are not joined with each other, the grouping only matters where the one in the middle
separates the others. -/
theorem merge_assoc_of_joined {lower middle upper : Value} (h : ¬Separated lower middle upper)
    (hjoined : upper.container? ≠ none → middle.container? = upper.container? →
      lower.container? = upper.container? →
      (lower.merge middle).merge upper = lower.merge (middle.merge upper)) :
    (lower.merge middle).merge upper = lower.merge (middle.merge upper) := by
  by_cases hhides : upper.container? = none ∨ middle.container? ≠ upper.container?
  · have hlower : upper.container? = none ∨ lower.container? ≠ upper.container? := by
      by_contra hothers
      simp only [not_or, not_not] at hothers
      obtain ⟨hsort, heq⟩ := hothers
      exact h ⟨[], lower, middle, upper, rfl, rfl, rfl, heq ▸ hsort, heq.symm,
        heq ▸ hhides.resolve_left hsort⟩
    rw [merge_eq_right hhides, merge_eq_right hlower, merge_eq_right]
    rwa [container?_merge]
  simp only [not_or, not_not] at hhides
  obtain ⟨hsort, hmiddle⟩ := hhides
  by_cases hlower : lower.container? = upper.container?
  · exact hjoined hsort hmiddle hlower
  · have hhidden : lower.container? ≠ (middle.merge upper).container? := by
      rwa [container?_merge]
    rw [merge_eq_right (.inr hhidden)]
    rw [← hmiddle] at hlower
    rw [merge_eq_right (.inr hlower)]

/-- Values may be grouped if none in the middle separates two that would be joined. -/
theorem merge_assoc {lower middle upper : Value} (h : ¬Separated lower middle upper) :
    (lower.merge middle).merge upper = lower.merge (middle.merge upper) := by
  induction lower using inductionOnEntries generalizing middle upper with
  | table a ih =>
    apply merge_assoc_of_joined h
    intro _ hmiddle hupper
    obtain ⟨c, rfl⟩ := container?_eq_table_iff.mp hupper.symm
    obtain ⟨b, rfl⟩ := container?_eq_table_iff.mp hmiddle
    have hentries : ∀ entry ∈ a, ∀ middle, b.get? entry.1 = some middle →
        ∀ upper, c.get? entry.1 = some upper →
        (entry.2.merge middle).merge upper = entry.2.merge (middle.merge upper) := by
      intro entry hentry middle hmiddle upper hupper
      apply ih entry hentry
      intro hseparated
      exact h (separated_table_iff.mpr ⟨entry.1, entry.2, middle, upper, hentry,
        Table.mem_of_get? hmiddle, Table.mem_of_get? hupper, hseparated⟩)
    simp only [merge_table, Table.merge_assoc_of_entries hentries]
  | other lower hlower =>
    apply merge_assoc_of_joined h
    intro hsort hmiddle hupper
    rw [hupper] at hlower
    cases upper with
    | array zs =>
      obtain ⟨xs, rfl⟩ := container?_eq_array_iff.mp hupper
      obtain ⟨ys, rfl⟩ := container?_eq_array_iff.mp hmiddle
      simp only [merge_array, List.append_assoc]
    | table c => exact absurd rfl hlower
    | _ => exact absurd rfl hsort

/-! ## Groups of documents -/

/-- Where two values together hold something, one of them holds something of the same sort. -/
theorem exists_holds_of_holds_merge {lower upper inner : Value} {path : List String}
    (h : (lower.merge upper).Holds path inner) :
    ∃ value, (lower.Holds path value ∨ upper.Holds path value) ∧
      value.container? = inner.container? := by
  induction path generalizing lower upper with
  | nil =>
    rw [Holds] at h
    exact ⟨upper, .inr rfl, by rw [h, container?_merge]⟩
  | cons key path ih =>
    obtain ⟨entries, value, htable, hentry, hpath⟩ := holds_cons_iff.mp h
    obtain ⟨b, rfl⟩ : ∃ b : Table, upper = .table b := by
      rw [← container?_eq_table_iff, ← container?_merge lower upper, htable]
      rfl
    by_cases hlower : lower.container? = some .table
    · obtain ⟨a, rfl⟩ := container?_eq_table_iff.mp hlower
      rw [merge_table] at htable
      obtain rfl := Value.table.inj htable
      rcases Table.mem_merge hentry with hupper | ⟨below, hbelow, heq⟩
      · exact ⟨inner, .inr ⟨value, hupper, hpath⟩, rfl⟩
      · obtain ⟨rfl, rfl⟩ := Prod.mk.inj heq
        cases hb : b.get? below.1 with
        | none =>
          rw [hb] at hpath
          exact ⟨inner, .inl ⟨below.2, hbelow, hpath⟩, rfl⟩
        | some above =>
          rw [hb] at hpath
          obtain ⟨value, hvalue, hsort⟩ := ih hpath
          refine ⟨value, ?_, hsort⟩
          exact hvalue.imp (⟨below.2, hbelow, ·⟩) (⟨above, Table.mem_of_get? hb, ·⟩)
    · rw [merge_eq_right (.inr hlower)] at h
      exact ⟨inner, .inr h, rfl⟩

end Value

namespace Table

/-- What documents hold together, one of them holds something of the same sort. -/
theorem exists_holds_of_holds_mergeAll {tables : List Table} {key : String} {path : List String}
    {inner : Value} (h : (Value.table (mergeAll tables)).Holds (key :: path) inner) :
    ∃ t ∈ tables, ∃ value, (Value.table t).Holds (key :: path) value ∧
      value.container? = inner.container? := by
  induction tables using List.reverseRecOn generalizing inner with
  | nil => simp [mergeAll, Value.Holds] at h
  | append_singleton tables t ih =>
    rw [mergeAll_concat, ← Value.merge_table] at h
    obtain ⟨value, hvalue | hvalue, hsort⟩ := Value.exists_holds_of_holds_merge h
    · obtain ⟨u, hu, value', hvalue', hsort'⟩ := ih hvalue
      exact ⟨u, List.mem_append_left _ hu, value', hvalue', hsort'.trans hsort⟩
    · exact ⟨t, by simp, value, hvalue, hsort⟩

/-- Whether three tables in a row can be grouped: none of the values in the second one separates
containers of the others. -/
def Separated (a b c : Table) : Prop := Value.Separated (.table a) (.table b) (.table c)

/-- What separates documents that are laid over each other separates three of them. -/
theorem exists_separated_of_mergeAll {xs ys : List Table} {c : Table}
    (h : Separated (mergeAll xs) (mergeAll ys) c) : ∃ a ∈ xs, ∃ b ∈ ys, Separated a b c := by
  obtain ⟨path, l, m, u, hl, hm, hu, hcontainer, hupper, hmiddle⟩ := h
  cases path with
  | nil =>
    rw [Value.Holds] at hl hm
    rw [hl, hm] at hmiddle
    exact absurd rfl hmiddle
  | cons key path =>
    obtain ⟨a, ha, l', hl', hsort⟩ := exists_holds_of_holds_mergeAll hl
    obtain ⟨b, hb, m', hm', hsort'⟩ := exists_holds_of_holds_mergeAll hm
    refine ⟨a, ha, b, hb, key :: path, l', m', u, hl', hm', hu, ?_⟩
    rw [hsort, hsort']
    exact ⟨hcontainer, hupper, hmiddle⟩

theorem merge_assoc {a b c : Table} (h : ¬Separated a b c) :
    (a.merge b).merge c = a.merge (b.merge c) := by
  simpa using Value.merge_assoc h

/-- Documents may be laid over each other in two groups, if nothing is separated. -/
theorem mergeAll_append {xs ys : List Table}
    (h : ∀ a b c, [a, b, c].Sublist (xs ++ ys) → ¬Separated a b c) :
    mergeAll (xs ++ ys) = (mergeAll xs).merge (mergeAll ys) := by
  induction ys using List.reverseRecOn with
  | nil => rw [List.append_nil, mergeAll_nil, merge_nil]
  | append_singleton ys t ih =>
    have hgroup : ¬Separated (mergeAll xs) (mergeAll ys) t := by
      intro hseparated
      obtain ⟨a, ha, b, hb, habt⟩ := exists_separated_of_mergeAll hseparated
      refine h a b t ?_ habt
      exact (List.singleton_sublist.mpr ha).append ((List.singleton_sublist.mpr hb).append (.refl _))
    have hinit : ∀ a b c, [a, b, c].Sublist (xs ++ ys) → ¬Separated a b c := by
      intro a b c habc
      apply h
      rw [← List.append_assoc]
      exact habc.trans (List.sublist_append_left _ _)
    rw [← List.append_assoc, mergeAll_concat, mergeAll_concat, ih hinit, merge_assoc hgroup]

/-- Documents may be laid over each other in any groups, if nothing is separated. -/
theorem mergeAll_flatten {groups : List (List Table)}
    (h : ∀ a b c, [a, b, c].Sublist groups.flatten → ¬Separated a b c) :
    mergeAll (groups.map mergeAll) = mergeAll groups.flatten := by
  induction groups using List.reverseRecOn with
  | nil => rfl
  | append_singleton groups group ih =>
    rw [List.flatten_append, List.flatten_singleton] at h ⊢
    have hinit : ∀ a b c, [a, b, c].Sublist groups.flatten → ¬Separated a b c :=
      fun a b c habc ↦ h a b c (habc.trans (List.sublist_append_left _ _))
    rw [List.map_append, List.map_singleton, mergeAll_concat, ih hinit, mergeAll_append h]

/-- Three documents may be grouped either way, and any number of them in any groups, if no value of
one document separates two tables or two arrays of the others. -/
theorem merge_grouped :
    (∀ a b c : Table, ¬Separated a b c → (a.merge b).merge c = a.merge (b.merge c)) ∧
      ∀ groups : List (List Table),
        (∀ a b c, [a, b, c].Sublist groups.flatten → ¬Separated a b c) →
        mergeAll (groups.map mergeAll) = mergeAll groups.flatten :=
  ⟨fun _ _ _ ↦ merge_assoc, fun _ ↦ mergeAll_flatten⟩

/-- A document whose table names an owner in a word. -/
def byOwner : Table :=
  [("paths", .array [.integer 1]), ("about", .table [("owner", .string "ops")])]

/-- A document whose table lists owners, and that says nothing about directories. -/
def byTeam : Table :=
  [("about", .table [("owner", .array [.integer 2])]), ("mode", .table [])]

/-- A document that adds to the lists of the others. -/
def byGuest : Table :=
  [("paths", .array [.integer 3]), ("mode", .string "guest"),
    ("about", .table [("owner", .array [.integer 4])])]

/-- The text under the two lists, and the absence between the other two, separate nothing. -/
theorem not_separated_byOwner : ¬Separated byOwner byTeam byGuest := by
  rw [Separated, Value.separated_table_iff]
  rintro ⟨key, l, m, u, hl, hm, hu, h⟩
  simp only [byOwner, byTeam, byGuest, List.mem_cons, Prod.mk.injEq, List.not_mem_nil,
    or_false] at hl hm hu
  obtain ⟨rfl, rfl⟩ | ⟨rfl, rfl⟩ := hl
  · simp at hm
  · simp only [true_and, String.reduceEq, false_and, or_false, false_or] at hm hu
    subst hm hu
    obtain ⟨key, l, m, u, hl, _, _, path, h⟩ := Value.separated_table_iff.mp h
    simp only [List.mem_singleton, Prod.mk.injEq] at hl
    obtain ⟨rfl, rfl⟩ := hl
    cases path <;> simp_all [Value.Holds, Value.container?]

theorem merge_grouped_byOwner :
    ¬Separated byOwner byTeam byGuest ∧
      (byOwner.merge byTeam).merge byGuest = byOwner.merge (byTeam.merge byGuest) ∧
      (∀ a b c, [a, b, c].Sublist [[byOwner, byTeam], [byGuest]].flatten → ¬Separated a b c) ∧
      mergeAll [mergeAll [byOwner, byTeam], mergeAll [byGuest]] =
        mergeAll [byOwner, byTeam, byGuest] := by
  have hseparated := not_separated_byOwner
  have hgroups : ∀ a b c, [a, b, c].Sublist [[byOwner, byTeam], [byGuest]].flatten →
      ¬Separated a b c := by
    intro a b c habc
    obtain ⟨rfl, rfl, rfl⟩ : a = byOwner ∧ b = byTeam ∧ c = byGuest := by
      simpa using habc.eq_of_length rfl
    exact hseparated
  exact ⟨hseparated, merge_grouped.1 _ _ _ hseparated, hgroups, merge_grouped.2 _ hgroups⟩

/-- A text between two lists hides the first one, but not after it has been hidden itself. -/
example :
    let a : Table := [("paths", .array [.integer 1])]
    let b : Table := [("paths", .string "none")]
    let c : Table := [("paths", .array [.integer 2])]
    ((a.merge b).merge c).itemsAt "paths" = [.integer 2] ∧
      (a.merge (b.merge c)).itemsAt "paths" = [.integer 1, .integer 2] :=
  ⟨rfl, rfl⟩

end Table

end ShellInit.Toml
