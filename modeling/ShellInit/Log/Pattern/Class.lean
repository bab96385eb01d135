import ShellInit.Log.Pattern.Height
import ShellInit.Log.Pattern.Mode

/-!
# Classes of a pattern

A class names characters between brackets: single ones, ranges, kinds, named classes and classes
again, with operators between such lists.
-/

namespace ShellInit.Pattern

def classNames : List String := [
  "alnum", "alpha", "ascii", "blank", "cntrl", "digit", "graph", "lower", "print", "punct", "space",
  "upper", "word", "xdigit"]

/-- A named class at the front of a text that comes after a bracket: whether it is negated, and what
follows it. -/
def namedClass? (s : List Char) : Option (Bool × List Char) :=
  match s with
  | ':' :: s =>
    let negated := s.head? = some '^'
    match (if negated then s.tail else s).span (· ≠ ':') with
    | (name, ':' :: ']' :: after) =>
      if classNames.contains (.ofList name) then some (negated, after) else none
    | _ => none
  | _ => none

/-- A class that is open, by the heights of its parts. -/
structure Class where
  /-- The part in front of the last operator. -/
  operand : Option Nat := none
  /-- The members behind it. -/
  members : List Nat := []
deriving DecidableEq, Repr

namespace Class

def add (k : Class) (height : Nat) : Class := { k with members := height :: k.members }

def height (k : Class) : Nat := together (together k.members :: k.operand.toList)

/-- One piece of a class, and its character if it is one. In a class every character counts as a
byte. -/
def readMember (m : Mode) : Reader (Option Char) := do
  match ← Reader.next with
  | '\\' =>
    match ← m.readEscape with
    | .char c _ => single c
    | .kind negated => guard (m.admits (.kind negated)); return none
    | _ => failure
  | c => single c
where
  /-- A single character. -/
  single (c : Char) : Reader (Option Char) := do
    guard (m.admits (.char c true))
    return some c

/-- A piece of a class, or an ascending range. -/
def readRange (m : Mode) : Reader Unit := do
  let low ← readMember m
  m.skip
  match ← Reader.rest with
  | '-' :: after =>
    let beyond := m.glance after
    unless beyond = some ']' || beyond = some '-' do
      Reader.char '-'
      m.skip
      match low, ← readMember m with
      | some low, some high => guard (low ≤ high)
      | _, _ => failure
  | _ => return ()

/-- Takes off the character if it comes next, and what stands for nothing behind it. -/
def skipChar (m : Mode) (c : Char) : Reader Bool := do
  if (← Reader.rest).head? = some c then
    Reader.char c
    m.skip
    return true
  else
    return false

/-- What may stand right behind the bracket that opens a class: a caret, then either dashes or a
closing bracket, which are members. -/
def readStart (m : Mode) : Reader Class := do
  m.skip
  if ← skipChar m '^' then guard m.unicode
  let dashes ← Reader.iterate (fun k ↦ do
    if ← skipChar m '-' then return .inl (k.add 0)
    return .inr k) ({} : Class)
  let start ← if dashes.members.isEmpty then
      if ← skipChar m ']' then pure (dashes.add 0) else pure dashes
    else pure dashes
  guard (start.members.isEmpty || m.admits (.char '-' true))
  return start

/-- The height of a class, which is read from behind its opening bracket. -/
def read (m : Mode) : Reader Nat := do
  let start ← readStart m
  Reader.iterate (fun (k, outer) ↦ do
    m.skip
    match ← Reader.rest with
    | '[' :: after =>
      match namedClass? after with
      | some (negated, after) =>
        guard (if m.unicode then !m.caseless else !negated)
        set after
        return .inl (k.add 0, outer)
      | none =>
        set after
        return .inl (← readStart m, k :: outer)
    | ']' :: after =>
      set after
      match outer with
      | around :: outer => return .inl (around.add (k.height + 1), outer)
      | [] => return .inr (k.height + 1)
    | '&' :: '&' :: after | '-' :: '-' :: after | '~' :: '~' :: after =>
      set after
      return .inl ({ operand := some k.height }, outer)
    | _ => readRange m; return .inl (k.add 0, outer)) (start, [])

end Class

end ShellInit.Pattern
