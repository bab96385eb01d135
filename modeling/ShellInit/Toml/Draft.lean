import ShellInit.Toml.Value

/-!
# Documents under construction

While a document is read its tables remember how they came about, for that decides what may still be
added: a table with a header of its own is complete, one that a longer header implies may get its
header later, and one that a dotted key makes grows by dotted keys only. Keys stand in the order in
which the document brings them up.
-/

namespace ShellInit.Toml

/-- A key with the keys of the tables that lead to it. -/
structure Path where
  parents : List String
  key : String
deriving Repr

def Path.length (p : Path) : Nat := p.parents.length + 1

inductive Origin
  | header
  | implied
  | dotted
deriving DecidableEq, Repr

/-- A part of a document under construction: a finished value, a table, or the tables that headers
in double brackets add to an array. -/
inductive Node
  | leaf (value : Value)
  | table (origin : Origin) (entries : List (String × Node))
  | elements (tables : List (List (String × Node)))

abbrev Draft := List (String × Node)

def alter {β : Type} (key : String) (f : Option β → Option β) :
    List (String × β) → Option (List (String × β))
  | [] => (f none).map fun new ↦ [(key, new)]
  | (k, old) :: rest =>
    if k = key then (f (some old)).map fun new ↦ (key, new) :: rest
    else (alter key f rest).map fun rest ↦ (k, old) :: rest

def alterLast {β : Type} (f : β → Option β) : List β → Option (List β)
  | [] => none
  | [x] => (f x).map fun x ↦ [x]
  | x :: rest => (alterLast f rest).map fun rest ↦ x :: rest

namespace Draft

/-- Adds a value at a path of dotted keys. -/
def assignAt : List String → String → Value → Draft → Option Draft
  | [], key, value => alter key fun
    | none => some (.leaf value)
    | some _ => none
  | parent :: parents, key, value => alter parent fun
    | none => (assignAt parents key value []).map (.table .dotted)
    | some (.table origin entries) =>
      if origin = .dotted ∨ origin = .implied ∧ parents ≠ [] then
        (assignAt parents key value entries).map (.table origin)
      else none
    | some (.elements tables) =>
      if parents ≠ [] then (alterLast (assignAt parents key value) tables).map .elements else none
    | some (.leaf _) => none

def assign (d : Draft) (path : Path) (value : Value) : Option Draft :=
  assignAt path.parents path.key value d

def assignAll (d : Draft) (assignments : List (Path × Value)) : Option Draft :=
  assignments.foldlM (fun d (path, value) ↦ d.assign path value) d

/-- Changes the table to which keys lead; tables on the way are implied. -/
def within (f : Draft → Option Draft) : List String → Draft → Option Draft
  | [] => f
  | parent :: parents => alter parent fun
    | none => (within f parents []).map (.table .implied)
    | some (.table origin entries) => (within f parents entries).map (.table origin)
    | some (.elements tables) => (alterLast (within f parents) tables).map .elements
    | some (.leaf _) => none

/-- Adds the table below a header in single brackets as the last one of its parent. A table that was
implied so far gives up its place. -/
def addTable (d : Draft) (path : Path) (assignments : List (Path × Value)) : Option Draft :=
  within (fun parent ↦ do
    let entries ← match parent.lookup path.key with
      | none => some []
      | some (.table .implied entries) => some entries
      | some _ => none
    let table ← assignAll entries assignments
    return parent.filter (·.1 ≠ path.key) ++ [(path.key, .table .header table)]) path.parents d

def addElement (d : Draft) (path : Path) (assignments : List (Path × Value)) : Option Draft :=
  within (alter path.key fun
    | none => (assignAll [] assignments).map fun table ↦ .elements [table]
    | some (.elements tables) =>
      (assignAll [] assignments).map fun table ↦ .elements (tables ++ [table])
    | some _ => none) path.parents d

end Draft

/-! ## The finished document -/

mutual

def Node.toValue : Node → Value
  | .leaf value => value
  | .table _ entries => .table (entriesToTable entries)
  | .elements tables => .array (elementsToValues tables)

/-- A table without what it remembers of its making. -/
def entriesToTable : List (String × Node) → List (String × Value)
  | [] => []
  | (key, node) :: rest => (key, node.toValue) :: entriesToTable rest

def elementsToValues : List (List (String × Node)) → List Value
  | [] => []
  | entries :: rest => .table (entriesToTable entries) :: elementsToValues rest

end

def Draft.toTable (d : Draft) : Table := entriesToTable d

end ShellInit.Toml
