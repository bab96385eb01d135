import ShellInit.Toml.Clock
import ShellInit.Toml.Value

/-!
# Tables that stand for dates and times

A date or time may also be given as text: below the root, a table that begins with a reserved key
stands for the date or time that the text at this key denotes, whatever else the table holds.
-/

namespace ShellInit.Toml

/-- The key that makes a table stand for a date or time. -/
def momentKey : String := "$__toml_private_datetime"

namespace Table

/-- Whether the table begins with the reserved key. -/
def standsForMoment (t : Table) : Bool := t.head?.any (·.1 = momentKey)

/-- The date or time that the text of the first entry denotes. -/
def leadingMoment? (t : Table) : Option Moment :=
  match t with
  | (_, .string text) :: _ => Moment.ofText? text
  | _ => none

end Table

mutual

/-- The value with dates and times in place of the tables that stand for them, provided that each of
these names one. -/
def Value.restored? : Value → Option Value
  | .array items => (restoredItems? items).map .array
  | .table entries =>
    if Table.standsForMoment entries then (Table.leadingMoment? entries).map .moment
    else (restoredEntries? entries).map .table
  | value => some value

def restoredItems? : List Value → Option (List Value)
  | [] => some []
  | value :: rest => do return (← value.restored?) :: (← restoredItems? rest)

def restoredEntries? : List (String × Value) → Option (List (String × Value))
  | [] => some []
  | (key, value) :: rest => do return (key, ← value.restored?) :: (← restoredEntries? rest)

end

/-- A document with dates and times in place of the tables that stand for them. -/
def Table.restored? (t : Table) : Option Table := restoredEntries? t

end ShellInit.Toml
