import ShellInit.Toml.Moment

/-!
# Document values

The tree that a TOML document denotes. A table is a list of keys with their values, of which the
first one counts should a key occur twice; the order of the keys matters only while a document is
read.
-/

namespace ShellInit.Toml

/-- A value of a document; a float is kept as its IEEE-754 bits. -/
inductive Value
  | string (text : String)
  | integer (n : Int)
  | float (bits : UInt64)
  | boolean (b : Bool)
  | moment (m : Moment)
  | array (items : List Value)
  | table (entries : List (String × Value))
deriving Repr, Inhabited

abbrev Table := List (String × Value)

namespace Table

def get? (t : Table) (key : String) : Option Value := t.lookup key

def contains (t : Table) (key : String) : Bool := (t.get? key).isSome

@[simp] theorem get?_nil (key : String) : get? [] key = none := rfl

theorem get?_cons (entry : String × Value) (t : Table) (key : String) :
    get? (entry :: t) key = if key == entry.1 then some entry.2 else get? t key := by
  rw [get?, List.lookup_cons]
  cases key == entry.1 <;> rfl

end Table

end ShellInit.Toml
