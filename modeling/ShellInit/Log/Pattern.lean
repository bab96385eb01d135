import ShellInit.Log.Pattern.Class
import ShellInit.Log.Pattern.Group

/-!
# Patterns for field values

A log filter may ask for the value of a field by a regular expression. Which values it fits does not
matter to the events of this program, but one that is malformed spoils the filter. A pattern in a
directive holds no closing brace, so forms that need one are refused.
-/

namespace ShellInit.Pattern

structure Progress where
  /-- The innermost group that is open. -/
  group : Group := {}
  /-- The groups around it, from the inside. -/
  outer : List Group := []
  /-- Names of groups so far. -/
  names : List (List Char) := []
deriving DecidableEq, Repr

def Progress.readPiece (p : Progress) : Reader Progress := do
  let mode := p.group.mode
  let piece (height : Nat) : Progress := { p with group := p.group.add height }
  match ← Reader.next with
  | '(' =>
    match ← GroupStart.read mode with
    | .flags mode => return { p with group := p.group.addFlags mode }
    | .group mode name =>
      guard (name.all fun name ↦ !p.names.contains name)
      return { group := { mode }, outer := p.group :: p.outer, names := name.toList ++ p.names }
  | ')' =>
    match p.outer with
    | around :: outer => return { p with group := around.add (p.group.height + 1), outer }
    | [] => failure
  | '|' => return { p with group := p.group.branch }
  | '*' | '+' | '?' =>
    let some group := p.group.repeat? | failure
    if (← Reader.rest).head? = some '?' then Reader.char '?'
    return { p with group }
  | '\x7b' => failure
  | '[' => return piece (← Class.read mode)
  | '\\' =>
    guard (mode.admits (← mode.readEscape))
    return piece 0
  | '.' =>
    guard mode.unicode
    return piece 0
  | '^' | '$' => return piece 0
  | c =>
    guard (mode.admits (.char c false))
    return piece 0

def read : Reader Unit :=
  Reader.iterate (fun p ↦ do
    p.group.mode.skip
    if (← Reader.rest).isEmpty then
      guard (p.outer.isEmpty && p.group.height ≤ heightLimit)
      return .inr ()
    return .inl (← p.readPiece)) ({} : Progress)

/-! ## Numbers -/

/-- Digits with at most one point among them, and perhaps an exponent. -/
def isNumeral (s : List Char) : Bool :=
  let (whole, rest) := s.span Char.isDigit
  let (fraction, rest) :=
    match rest with
    | '.' :: rest => rest.span Char.isDigit
    | rest => ([], rest)
  let exponent (s : List Char) : Bool :=
    let digits := if s.head?.any fun c ↦ c = '+' || c = '-' then s.tail else s
    !digits.isEmpty && digits.all Char.isDigit
  !(whole ++ fraction).isEmpty &&
    match rest with
    | [] => true
    | c :: rest => c.toLower = 'e' && exponent rest

def isPositive (s : List Char) : Bool :=
  match s with
  | '+' :: s => isNumeral s || ["inf", "infinity", "nan"].contains (.ofList (s.map Char.toLower))
  | _ => false

/-- Whether the text can be asked for as a value: a number or a pattern. A number without a plus
sign is a pattern anyway. -/
def isValue (s : List Char) : Bool := isPositive s || (Reader.whole? read (.ofList s)).isSome

end ShellInit.Pattern
