import ShellInit.Binary64.Nearest

/-!
# The shortest decimal of a double

The fewest digits that still read back as the double, and of those the ones nearest to it, written
without an exponent and always with a point.
-/

namespace ShellInit.Binary64

/-- A positive finite double as `mantissa * 2 ^ unit`. -/
structure Scaled where
  mantissa : Nat
  unit : Int

def Scaled.ofBits (bits : Nat) : Scaled :=
  let biased : Nat := bits / hiddenBit % 2048
  let fraction := bits % hiddenBit
  if biased = 0 then ⟨fraction, -1074⟩ else ⟨hiddenBit + fraction, biased - 1075⟩

/-- The decimals between a double's neighbours that read back as it, in quarters of its unit. -/
structure Interval where
  low : Nat
  high : Nat
  closed : Bool

/-- Halfway to both neighbours; below a power of two the lower one is twice as near. -/
def Scaled.interval (x : Scaled) : Interval where
  low := 4 * x.mantissa - if x.mantissa = hiddenBit ∧ -1074 < x.unit then 1 else 2
  high := 4 * x.mantissa + 2
  closed := x.mantissa % 2 = 0

/-- Whether the interval holds `num / den`, both sides being counted in quarters of the unit. -/
def Interval.holds (i : Interval) (num den : Nat) : Bool :=
  if i.closed then i.low * den ≤ num && num ≤ i.high * den
  else i.low * den < num && num < i.high * den

/-- The multiple of `10 ^ exponent` that reads back as the double; of two the nearer, and above if
they are equally near. -/
def Scaled.digitsAt? (x : Scaled) (exponent : Int) : Option Nat :=
  let unit := x.unit - 2
  let scale := Nat.pow 10 exponent.toNat <<< (-unit).toNat
  let den := Nat.pow 10 (-exponent).toNat <<< unit.toNat
  let value := 4 * x.mantissa * den
  let below := value / scale
  let holds (digits : Nat) : Bool := x.interval.holds (digits * scale) den
  match holds below, holds (below + 1) with
  | true, true => some (if 2 * (value % scale) < scale then below else below + 1)
  | true, false => some below
  | false, true => some (below + 1)
  | false, false => none

/-- The digits and the power of ten of the shortest decimal of a positive finite double. -/
def Scaled.shortest (x : Scaled) : Nat × Int :=
  let found := (List.range 700).findSome? fun (steps : Nat) ↦
    let exponent : Int := 309 - steps
    (x.digitsAt? exponent).map (·, exponent)
  found.getD (0, 0)

/-- Writes out `digits * 10 ^ exponent`, with at least one digit on each side of the point. -/
def positional (digits : Nat) (exponent : Int) : String :=
  let text := Nat.toDigits 10 digits
  let places := (-exponent).toNat
  if places = 0 then .ofList (text ++ List.replicate exponent.toNat '0') ++ ".0"
  else
    let padded := List.replicate (places + 1 - text.length) '0' ++ text
    let whole := padded.length - places
    .ofList (padded.take whole) ++ "." ++ .ofList (padded.drop whole)

/-- The text of a double: its shortest decimal, or the name of what is no number. -/
def render (bits : Nat) : String :=
  let magnitude := bits % signBit
  let sign := if signBit ≤ bits then "-" else ""
  if infinity < magnitude then "NaN"
  else if magnitude = infinity then sign ++ "inf"
  else if magnitude = 0 then sign ++ "0.0"
  else
    let (digits, exponent) := (Scaled.ofBits magnitude).shortest
    sign ++ positional digits exponent

end ShellInit.Binary64
