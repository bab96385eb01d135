import ShellInit.Binary64.Nearest
import ShellInit.Toml.Clock
import ShellInit.Toml.Value

/-!
# Reading numbers

Integers of 64 bits in four bases and floats. An underscore may stand between two digits, a sign
only before a decimal number, and no superfluous zero in front. A positive float that overflows is
refused, a negative one is minus infinity.
-/

namespace ShellInit.Toml

/-- The digits at the front after a first one, without the underscores between them. -/
def moreDigits (isDigit : Char → Bool) : List Char → Option (List Char × List Char)
  | [] => some ([], [])
  | '_' :: c :: after =>
    if isDigit c then (moreDigits isDigit after).map fun (cs, rest) ↦ (c :: cs, rest) else none
  | c :: after =>
    if isDigit c then (moreDigits isDigit after).map fun (cs, rest) ↦ (c :: cs, rest)
    else if c = '_' then none
    else some ([], c :: after)

/-- At least one digit, without the underscores between them. -/
def digitRun (isDigit : Char → Bool) : Reader (List Char) := do
  let first ← Reader.next
  guard (isDigit first)
  return first :: (← moreDigits isDigit)

def digitValue (c : Char) : Nat :=
  if c.isDigit then c.toNat - '0'.toNat
  else if c.isLower then c.toNat - 'a'.toNat + 10
  else c.toNat - 'A'.toNat + 10

/-- Integers lie below this bound and not below its negative. -/
def integerBound : Int := 0x8000000000000000

/-- Digits of the class in the base, as an integer of 64 bits. -/
def readBased (base : Nat) (isDigit : Char → Bool) : Reader Value := do
  let digits ← digitRun isDigit
  let n := digits.foldl (fun n c ↦ base * n + digitValue c) 0
  guard (n < integerBound)
  return .integer n

def readSign : Reader (Bool × Bool) := do
  match ← Reader.rest with
  | '+' :: after => set after; return (true, false)
  | '-' :: after => set after; return (true, true)
  | _ => return (false, false)

/-- A float from the bits of its magnitude. -/
def signed (negative : Bool) (magnitude : Nat) : Value :=
  .float (.ofNat (if negative then Binary64.signBit + magnitude else magnitude))

def readWhole : Reader (List Char) := do
  if (← Reader.rest).head? = some '0' then
    Reader.char '0'
    return ['0']
  digitRun Char.isDigit

def readPlaces : Reader (Option (List Char)) := Reader.ifWord "." (digitRun Char.isDigit)

def readExponent : Reader (Option Int) := do
  match ← Reader.rest with
  | 'e' :: after | 'E' :: after =>
    set after
    let (_, negative) ← readSign
    let n : Int := ofDigits (← digitRun Char.isDigit)
    return some (if negative then -n else n)
  | _ => return none

def readDecimal (negative : Bool) : Reader Value := do
  let whole ← readWhole
  let places ← readPlaces
  let exponent ← readExponent
  if places.isNone && exponent.isNone then
    let n : Int := ofDigits whole
    let n := if negative then -n else n
    guard (-integerBound ≤ n && n < integerBound)
    return .integer n
  let places := places.getD []
  let magnitude :=
    Binary64.nearestDecimal (ofDigits (whole ++ places)) (exponent.getD 0 - places.length)
  guard (negative || magnitude ≠ Binary64.infinity)
  return signed negative magnitude

def readNumber : Reader Value := do
  let (written, negative) ← readSign
  match ← Reader.rest with
  | 'i' :: _ => Reader.word "inf"; return signed negative Binary64.infinity
  | 'n' :: _ => Reader.word "nan"; return signed negative Binary64.nan
  | '0' :: 'x' :: after =>
    guard !written; set after; readBased 16 fun c ↦ c.isDigit || isHexLetter c
  | '0' :: 'o' :: after =>
    guard !written; set after; readBased 8 fun c ↦ '0' ≤ c && c ≤ '7'
  | '0' :: 'b' :: after => guard !written; set after; readBased 2 fun c ↦ c = '0' || c = '1'
  | _ => readDecimal negative
where
  isHexLetter (c : Char) : Bool := ('a' ≤ c && c ≤ 'f') || ('A' ≤ c && c ≤ 'F')

end ShellInit.Toml
