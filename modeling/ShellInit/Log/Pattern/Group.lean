import ShellInit.Log.Pattern.Height
import ShellInit.Log.Pattern.Mode
import ShellInit.Text.Alphanumeric

/-!
# Groups of a pattern

A group stands between parentheses. It may have a name or flags; flags alone are for what follows
them in the group around.
-/

namespace ShellInit.Pattern

/-- A group that is open, or the whole pattern. -/
structure Group where
  /-- How what comes next is read. -/
  mode : Mode := {}
  /-- Heights of the alternatives that are finished. -/
  alternatives : List Nat := []
  /-- Heights of the pieces of the last alternative, the last piece first; flags have none. -/
  pieces : List (Option Nat) := []
deriving DecidableEq, Repr

namespace Group

def add (g : Group) (height : Nat) : Group := { g with pieces := some height :: g.pieces }

def addFlags (g : Group) (mode : Mode) : Group := { g with mode, pieces := none :: g.pieces }

def lastHeight (g : Group) : Nat := together (g.pieces.map (·.getD 0))

def height (g : Group) : Nat := together (g.lastHeight :: g.alternatives)

/-- The group with another alternative, which is empty yet. -/
def branch (g : Group) : Group :=
  { g with alternatives := g.lastHeight :: g.alternatives, pieces := [] }

/-- The group with its last piece repeated, if there is one. -/
def repeat? (g : Group) : Option Group :=
  match g.pieces with
  | some height :: before => some { g with pieces := some (height + 1) :: before }
  | _ => none

end Group

def isGroupName (name : List Char) : Bool :=
  let begins (c : Char) := c = '_' || Text.isAlphabetic c
  name.head?.any begins && name.all fun c ↦ Text.isAlphanumeric c || "_.[]".toList.contains c

/-- What an opening parenthesis begins. -/
inductive GroupStart
  /-- A group, with the mode inside it. -/
  | group (mode : Mode) (name : Option (List Char))
  /-- Flags, with the mode behind them. -/
  | flags (mode : Mode)
deriving DecidableEq, Repr

namespace GroupStart

def readName (m : Mode) : Reader GroupStart := do
  let name ← Reader.takeWhile (· ≠ '>')
  Reader.char '>'
  guard (isGroupName name)
  return .group m (some name)

/-- Flags, each at most once; they are for a group or for what follows. -/
def readFlags (m : Mode) : Reader GroupStart := do
  let flags ← Reader.takeWhile fun c ↦ c ≠ ':' && c ≠ ')'
  guard (flags.all ("imsUuRx-".toList.contains ·) && flags.eraseDups.length = flags.length)
  guard (flags.getLast? ≠ some '-')
  match ← Reader.next with
  | ':' => return .group (m.change flags) none
  | _ =>
    guard !flags.isEmpty
    return .flags (m.change flags)

/-- What follows an opening parenthesis. -/
def read (m : Mode) : Reader GroupStart := do
  m.skip
  match ← Reader.rest with
  | '?' :: 'P' :: '<' :: after => set after; readName m
  | '?' :: '<' :: after => set after; readName m
  | '?' :: after => set after; readFlags m
  | _ => return .group m none

end GroupStart

end ShellInit.Pattern
