import ShellInit.Toml.Value

/-!
# Merging documents

Laying one document over another: tables are merged key by key, the items of two arrays stand one
after the other, and in any other case the overlay wins.
-/

namespace ShellInit.Toml

mutual

def Value.merge : Value → Value → Value
  | .table base, .table overlay =>
    .table (mergeShared base overlay ++ overlay.filter fun entry ↦ !Table.contains base entry.1)
  | .array base, .array overlay => .array (base ++ overlay)
  | _, overlay => overlay

/-- Each entry of the base with what the overlay has at its key laid over it. -/
def mergeShared : List (String × Value) → Table → List (String × Value)
  | [], _ => []
  | (key, value) :: rest, overlay =>
    (key, match overlay.get? key with
      | some above => value.merge above
      | none => value) :: mergeShared rest overlay

end

namespace Table

/-- Lays `overlay` over a table: its new keys follow those of the base. -/
def merge (base overlay : Table) : Table :=
  mergeShared base overlay ++ overlay.filter fun entry ↦ !base.contains entry.1

def mergeAll (tables : List Table) : Table := tables.foldl merge []

end Table

@[simp] theorem Value.merge_table (base overlay : Table) :
    (Value.table base).merge (.table overlay) = .table (base.merge overlay) := by
  rw [Value.merge, Table.merge]

@[simp] theorem Value.merge_array (base overlay : List Value) :
    (Value.array base).merge (.array overlay) = .array (base ++ overlay) := by
  rw [Value.merge]

end ShellInit.Toml
