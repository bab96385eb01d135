/-!
# Tags

Finite sets of alternatives that are written by name.
-/

namespace ShellInit

/-- Alternatives, each with its written name. -/
class Tagged (α : Type) where
  /-- All alternatives, in the order in which they are shown. -/
  all : List α
  /-- The written name. -/
  tag : α → String

export Tagged (tag)

def ofTag? {α : Type} [Tagged α] (name : String) : Option α :=
  (Tagged.all : List α).find? fun a ↦ tag a == name

theorem tag_of_ofTag?_eq_some {α : Type} [Tagged α] {name : String} {a : α}
    (h : ofTag? name = some a) : tag a = name := by
  simpa using List.find?_some h

end ShellInit
