import ShellInit.Proofs.Toml.Overlay

/-!
# Documents in layers

What a pile of documents has at a key depends on the values there alone: the last one decides. If it
is an array, it follows the arrays directly below it; if it is a table, it is laid over the tables
directly below it, in which the same holds for every key; any other value hides what is below.
-/

namespace ShellInit.Toml

/-! ## Containers -/

/-- Values that are joined with others of their sort when they are laid over each other. -/
inductive Container
  | array
  | table
deriving DecidableEq, Repr

@[simp] theorem Table.nil_merge (t : Table) : merge [] t = t := by
  simp [merge, mergeShared, contains]

@[simp] theorem Table.mergeAll_nil : mergeAll [] = [] := rfl

namespace Value

def container? : Value → Option Container
  | .array _ => some .array
  | .table _ => some .table
  | _ => none

def items? : Value → Option (List Value)
  | .array items => some items
  | _ => none

def entries? : Value → Option Table
  | .table entries => some entries
  | _ => none

theorem items?_eq_some_iff {value : Value} {items : List Value} :
    value.items? = some items ↔ value = .array items := by
  cases value <;> simp [items?]

theorem items?_eq_none_iff {value : Value} :
    value.items? = none ↔ value.container? ≠ some .array := by
  cases value <;> simp [items?, container?]

theorem entries?_eq_some_iff {value : Value} {entries : Table} :
    value.entries? = some entries ↔ value = .table entries := by
  cases value <;> simp [entries?]

theorem entries?_eq_none_iff {value : Value} :
    value.entries? = none ↔ value.container? ≠ some .table := by
  cases value <;> simp [entries?, container?]

/-- A value hides what is below it, unless both are arrays or both are tables. -/
theorem merge_eq_right {below above : Value}
    (h : above.container? = none ∨ below.container? ≠ above.container?) :
    below.merge above = above := by
  cases below <;> cases above <;> simp_all [container?, merge]

/-- A value keeps its sort of container over all values. -/
@[simp] theorem container?_merge (below above : Value) :
    (below.merge above).container? = above.container? := by
  by_cases h : below.container? = above.container?
  · cases below <;> cases above <;> simp_all [container?, merge]
  · rw [merge_eq_right (.inr h)]

end Value

/-! ## The values at a key -/

section Trailing

variable {α : Type} {view : Value → Option α} {value : Value} {values : List Value}

/-- The longest run of values at the end that all have a view, as they are viewed. -/
def trailing (view : Value → Option α) (values : List Value) : List α :=
  (values.rtakeWhile fun value ↦ (view value).isSome).filterMap view

theorem trailing_nil : trailing view [] = [] := rfl

theorem trailing_concat_of_some {a : α} (h : view value = some a) :
    trailing view (values ++ [value]) = trailing view values ++ [a] := by
  rw [trailing, List.rtakeWhile_concat_pos _ _ _ (by simp [h]), List.filterMap_append]
  simp [trailing, h]

theorem trailing_concat_of_none (h : view value = none) :
    trailing view (values ++ [value]) = [] := by
  rw [trailing, List.rtakeWhile_concat_neg _ _ _ (by simp [h]), List.filterMap_nil]

end Trailing

/-- What values come to that lie over each other from left to right. -/
def Value.layered (values : List Value) : Option Value :=
  values.getLast?.map fun
    | .array _ => .array (trailing Value.items? values).flatten
    | .table _ => .table (Table.mergeAll (trailing Value.entries? values))
    | last => last

namespace Value

variable {values : List Value}

/-- The last value decides which sort of container comes out. -/
theorem exists_layered_concat (values : List Value) (last : Value) :
    ∃ value, layered (values ++ [last]) = some value ∧ value.container? = last.container? := by
  rw [layered, List.getLast?_concat, Option.map_some]
  refine ⟨_, rfl, ?_⟩
  cases last <;> rfl

theorem layered_concat_array (items : List Value) :
    layered (values ++ [.array items]) =
      some (.array ((trailing items? values).flatten ++ items)) := by
  have hview : items? (.array items) = some items := rfl
  simp only [layered, List.getLast?_concat, Option.map_some, trailing_concat_of_some hview,
    List.flatten_append, List.flatten_singleton]

theorem layered_concat_table (entries : Table) :
    layered (values ++ [.table entries]) =
      some (.table ((Table.mergeAll (trailing entries? values)).merge entries)) := by
  have hview : entries? (.table entries) = some entries := rfl
  simp only [layered, List.getLast?_concat, Option.map_some, trailing_concat_of_some hview,
    Table.mergeAll_concat]

/-- Items follow those of the arrays directly below them. -/
theorem layered_merge_array (values : List Value) (items : List Value) :
    (layered values).merge merge (some (.array items)) =
      some (.array ((trailing items? values).flatten ++ items)) := by
  rcases List.eq_nil_or_concat' values with rfl | ⟨front, last, rfl⟩
  · rfl
  cases hlast : last.items? with
  | some below =>
    rw [trailing_concat_of_some hlast, items?_eq_some_iff.mp hlast, layered_concat_array,
      Option.merge_some_some, merge_array, List.flatten_append, List.flatten_singleton]
  | none =>
    obtain ⟨below, hbelow, hsort⟩ := exists_layered_concat front last
    rw [items?_eq_none_iff, ← hsort] at hlast
    rw [hbelow, Option.merge_some_some, merge_eq_right (.inr hlast),
      trailing_concat_of_none (items?_eq_none_iff.mpr (hsort ▸ hlast)), List.flatten_nil,
      List.nil_append]

/-- A table is laid over the tables directly below it. -/
theorem layered_merge_table (values : List Value) (entries : Table) :
    (layered values).merge merge (some (.table entries)) =
      some (.table ((Table.mergeAll (trailing entries? values)).merge entries)) := by
  rcases List.eq_nil_or_concat' values with rfl | ⟨front, last, rfl⟩
  · rw [trailing_nil, Table.mergeAll_nil, Table.nil_merge]
    rfl
  cases hlast : last.entries? with
  | some below =>
    rw [trailing_concat_of_some hlast, entries?_eq_some_iff.mp hlast, layered_concat_table,
      Option.merge_some_some, merge_table, Table.mergeAll_concat]
  | none =>
    obtain ⟨below, hbelow, hsort⟩ := exists_layered_concat front last
    rw [entries?_eq_none_iff, ← hsort] at hlast
    rw [hbelow, Option.merge_some_some, merge_eq_right (.inr hlast),
      trailing_concat_of_none (entries?_eq_none_iff.mpr (hsort ▸ hlast)), Table.mergeAll_nil,
      Table.nil_merge]

/-- One more value is laid over what those below it come to. -/
theorem layered_concat (values : List Value) (value : Value) :
    layered (values ++ [value]) = (layered values).merge merge (some value) := by
  cases value with
  | array items => rw [layered_concat_array, layered_merge_array]
  | table entries => rw [layered_concat_table, layered_merge_table]
  | _ =>
    rw [layered, List.getLast?_concat, Option.map_some]
    cases layered values with
    | none => rfl
    | some below => rw [Option.merge_some_some, merge_eq_right (.inl rfl)]

theorem layered_eq_none_iff {values : List Value} : layered values = none ↔ values = [] := by
  rw [layered, Option.map_eq_none_iff, List.getLast?_eq_none_iff]

end Value

namespace Table

theorem get?_eq_none_iff {t : Table} {key : String} :
    t.get? key = none ↔ key ∉ t.map Prod.fst := by
  rw [get?, List.lookup_eq_none_iff]
  grind

/-- At a key, only what documents have there counts. -/
theorem get?_mergeAll_eq_layered (tables : List Table) (key : String) :
    (mergeAll tables).get? key = Value.layered (tables.filterMap (·.get? key)) := by
  induction tables using List.reverseRecOn with
  | nil => rfl
  | append_singleton tables t ih =>
    rw [mergeAll_concat, get?_merge, ih, List.filterMap_append]
    cases hkey : t.get? key with
    | none => simp [hkey]
    | some value => simp [hkey, Value.layered_concat]

/-- Documents laid over each other have at a key what their values at this key come to, and no other
keys than theirs. -/
theorem get?_mergeAll (tables : List Table) (key : String) :
    (mergeAll tables).get? key = Value.layered (tables.filterMap (·.get? key)) ∧
      (key ∈ (mergeAll tables).map Prod.fst ↔ ∃ t ∈ tables, key ∈ t.map Prod.fst) := by
  refine ⟨get?_mergeAll_eq_layered tables key, ?_⟩
  rw [← not_iff_not, ← get?_eq_none_iff, get?_mergeAll_eq_layered, Value.layered_eq_none_iff,
    List.filterMap_eq_nil_iff]
  simp only [get?_eq_none_iff, not_exists, not_and]

/-- A text interrupts two lists, and the table that follows it is joined with the next one. -/
example :
    (mergeAll [[("a", .array [.integer 1])], [("a", .string "none")], [],
        [("a", .array [.integer 2])], [("a", .array [.integer 3])]]).get? "a" =
      some (.array [.integer 2, .integer 3]) := by
  rfl

end Table

end ShellInit.Toml
