import Mathlib.Data.List.DropRight
import ShellInit.Toml.Merge

/-!
# Looking into merged documents

A merged document has at a key what the documents have there, laid over each other. The items of the
arrays at a key stand one after the other, but a value of another kind takes their place: what is
left are the items of the arrays behind the last such value.
-/

namespace ShellInit.Toml

namespace Table

/-! ## One key -/

theorem get?_append (t u : Table) (key : String) :
    get? (t ++ u) key = (get? t key).or (get? u key) := List.lookup_append

theorem get?_filter (keep : String → Bool) (t : Table) (key : String) :
    get? (t.filter fun entry ↦ keep entry.1) key = if keep key then get? t key else none := by
  induction t with
  | nil => simp
  | cons entry t ih =>
    rw [List.filter_cons]
    by_cases heq : key = entry.1
    · subst heq
      cases hkeep : keep entry.1 <;> simp [get?_cons, hkeep, ih]
    · cases hkeep : keep entry.1 <;> simp [get?_cons, heq, ih]

theorem get?_mergeShared (base overlay : Table) (key : String) :
    get? (mergeShared base overlay) key =
      (get? base key).bind fun value ↦ (some value).merge Value.merge (get? overlay key) := by
  induction base with
  | nil => rfl
  | cons entry rest ih =>
    rcases entry with ⟨key', value⟩
    rw [mergeShared, get?_cons, get?_cons, ih]
    by_cases heq : key = key'
    · subst heq
      cases get? overlay key <;> simp
    · simp [heq]

/-- At each key the value of the overlay is laid over the value of the base. -/
theorem get?_merge (base overlay : Table) (key : String) :
    (base.merge overlay).get? key =
      (base.get? key).merge Value.merge (overlay.get? key) := by
  rw [merge, get?_append, get?_mergeShared, get?_filter fun key ↦ !base.contains key, contains]
  cases base.get? key <;> cases overlay.get? key <;> simp

theorem mergeAll_concat (tables : List Table) (t : Table) :
    mergeAll (tables ++ [t]) = (mergeAll tables).merge t := by
  rw [mergeAll, mergeAll, List.foldl_append, List.foldl_cons, List.foldl_nil]

/-! ## Arrays -/

/-- The items of the array at a key; none where no array stands. -/
def itemsAt (t : Table) (key : String) : List Value :=
  match t.get? key with
  | some (.array items) => items
  | _ => []

/-- Whether something else than an array stands at a key. -/
def replacesAt (t : Table) (key : String) : Bool :=
  match t.get? key with
  | none | some (.array _) => false
  | some _ => true

/-- The documents behind the last one that has something else than an array at the key. -/
def sinceReplaced (key : String) (tables : List Table) : List Table :=
  tables.rtakeWhile fun t ↦ !t.replacesAt key

theorem sinceReplaced_eq_self {key : String} {tables : List Table}
    (h : ∀ t ∈ tables, t.replacesAt key = false) : sinceReplaced key tables = tables := by
  rw [sinceReplaced, List.rtakeWhile_eq_self_iff]
  intro t ht
  rw [h t ht, Bool.not_false]

/-- A value of another kind takes the place of all items before it. -/
theorem itemsAt_merge (base overlay : Table) (key : String) :
    (base.merge overlay).itemsAt key =
      if overlay.replacesAt key then [] else base.itemsAt key ++ overlay.itemsAt key := by
  cases hbase : base.get? key with
  | none =>
    cases hoverlay : overlay.get? key with
    | none => simp [itemsAt, replacesAt, get?_merge, hbase, hoverlay]
    | some above => cases above <;> simp [itemsAt, replacesAt, get?_merge, hbase, hoverlay]
  | some below =>
    cases hoverlay : overlay.get? key with
    | none => simp [itemsAt, replacesAt, get?_merge, hbase, hoverlay]
    | some above =>
      cases below <;> cases above <;>
        simp [itemsAt, replacesAt, get?_merge, hbase, hoverlay, Value.merge]

/-- An array holds the items that documents have listed since something else stood there. -/
theorem itemsAt_mergeAll (tables : List Table) (key : String) :
    (mergeAll tables).itemsAt key = (sinceReplaced key tables).flatMap (·.itemsAt key) := by
  induction tables using List.reverseRecOn with
  | nil => rfl
  | append_singleton tables t ih =>
    rw [mergeAll_concat, itemsAt_merge, ih, sinceReplaced, sinceReplaced, List.rtakeWhile_concat]
    cases t.replacesAt key <;> simp

end Table

end ShellInit.Toml
