/-!
# Selections

A value that is written bare or as a list. It selects its members; an unset selection selects all.
-/

namespace ShellInit

inductive Selection (α : Type)
  | one (value : α)
  | many (values : List α)
deriving DecidableEq, Repr

namespace Selection

variable {α : Type}

def toList : Selection α → List α
  | .one value => [value]
  | .many values => values

def contains [BEq α] (s : Selection α) (value : α) : Bool := s.toList.contains value

/-- Whether an axis with this current value is selected; an unknown value only if no selection is
set. -/
def admits [BEq α] (selection : Option (Selection α)) (current : Option α) : Bool :=
  match selection, current with
  | none, _ => true
  | some s, some value => s.contains value
  | some _, none => false

@[simp] theorem toList_one (value : α) : (one value).toList = [value] := rfl

@[simp] theorem toList_many (values : List α) : (many values).toList = values := rfl

end Selection

end ShellInit
