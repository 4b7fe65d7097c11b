import Greenlight.Decimal.Binary
import Greenlight.Decimal.PowerOfTen

/-! # Rounding to a decimal grid

A quotient goes to the nearest whole number, a half to the even one. Fixed places and a fixed number
of digits are this rounding on a grid of powers of ten. -/

namespace Greenlight.Decimal

/-- The nearest whole number to a quotient, a half going to the even neighbour. -/
def roundDiv (num den : Nat) : Nat :=
  let q := num / den
  let twice := 2 * (num % den)
  if twice < den then q else if den < twice then q + 1 else q + q % 2

/-- The size in units of `10 ^ -places`. -/
def Binary.roundToPlaces (b : Binary) (places : Nat) : Nat :=
  roundDiv (b.fraction.1 * tenTo places) b.fraction.2

/-- The size of `num / den` in units of `10 ^ unit`. -/
def roundToUnit (num den : Nat) (unit : Int) : Nat :=
  roundDiv (num * tenTo (-unit).toNat) (den * tenTo unit.toNat)

/-- The exponent of the leading digit of a quotient, at least the estimate `low` and found within
`steps` steps above it. -/
def leadingExponent (num den : Nat) : Nat → Int → Int
  | 0, low => low
  | steps + 1, low =>
    if num * tenTo (-(low + 1)).toNat < den * tenTo (low + 1).toNat then low
    else leadingExponent num den steps (low + 1)

/-- The exponent `e` with `10 ^ e ≤ size < 10 ^ (e + 1)`, for a size above zero: the estimate from
the binary logarithm lies at most a few steps below it. -/
def Binary.leadingExponent (b : Binary) : Int :=
  let bits : Int := (Nat.log2 b.mantissa : Int) + b.exponent
  let estimate := Int.fdiv (bits * 30103) 100000 - 1
  Decimal.leadingExponent b.fraction.1 b.fraction.2 4 estimate

end Greenlight.Decimal
