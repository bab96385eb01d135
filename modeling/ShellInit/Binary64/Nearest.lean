/-!
# The double nearest to a decimal

Doubles are kept as their IEEE-754 bits. A decimal is rounded to the nearest double in exact integer
arithmetic, an exact half going to the even neighbour.
-/

namespace ShellInit.Binary64

def infinity : Nat := 0x7ff0000000000000

def nan : Nat := 0x7ff8000000000000

def signBit : Nat := 0x8000000000000000

/-- The bit above the stored part of the mantissa, set in every double that is not subnormal. -/
def hiddenBit : Nat := 0x10000000000000

/-- Rounds `num / den` to the nearest integer, an exact half to the even one. -/
def roundRatio (num den : Nat) : Nat :=
  let q := num / den
  let twice := 2 * (num % den)
  if twice < den then q else if den < twice then q + 1 else q + q % 2

/-- The exponent of the greatest power of two that is at most `num / den`. -/
def floorLog2Ratio (num den : Nat) : Int :=
  let guess : Int := (num.log2 : Int) - den.log2
  if den <<< guess.toNat ≤ num <<< (-guess).toNat then guess else guess - 1

def nearestRatio (num den : Nat) : Nat :=
  if num = 0 then 0
  else
    let unit : Int := max (floorLog2Ratio num den - 52) (-1074)
    let mantissa := roundRatio (num <<< (-unit).toNat) (den <<< unit.toNat)
    min infinity ((unit + 1074).toNat * hiddenBit + mantissa)

/-- Beyond this power of ten every decimal overflows, and below its negative vanishes. -/
def decimalLimit : Int := 400

/-- The bits of the double nearest to `digits * 10 ^ exponent`. -/
def nearestDecimal (digits : Nat) (exponent : Int) : Nat :=
  let magnitude := exponent + (Nat.toDigits 10 digits).length
  if digits = 0 ∨ magnitude < -decimalLimit then 0
  else if decimalLimit < magnitude then infinity
  else nearestRatio (digits * Nat.pow 10 exponent.toNat) (Nat.pow 10 (-exponent).toNat)

end ShellInit.Binary64
