import Greenlight.Decimal.Rounded

/-! # Shortest decimals

The decimal that stands for a double: of all decimals that read back to it, one with the fewest
digits, and of these the one nearest to it. -/

namespace Greenlight

/-- A number in decimal notation, or one of the three values without one. -/
inductive Decimal where
  /-- The number `digits * 10 ^ exponent`. -/
  | finite (negative : Bool) (digits : Nat) (exponent : Int)
  | infinite (negative : Bool)
  | undefined
deriving DecidableEq, Repr

namespace Decimal

/-- Compares `a * 10 ^ i` with `n * 2 ^ j`. -/
def compareScaled (a : Nat) (i : Int) (n : Nat) (j : Int) : Ordering :=
  compare ((a * tenTo i.toNat) <<< (-j).toNat) ((n * tenTo (-i).toNat) <<< j.toNat)

/-- The decimal lies among the numbers that round to this double: up to half the gap on either side,
the ends included if the mantissa is even. -/
def Binary.readsBack (b : Binary) (digits : Nat) (exponent : Int) : Bool :=
  let low := if b.narrowBelow then 4 * b.mantissa - 1 else 4 * b.mantissa - 2
  let high := 4 * b.mantissa + 2
  let even := b.mantissa % 2 == 0
  let fromLow := compareScaled digits exponent low (b.exponent - 2)
  let fromHigh := compareScaled digits exponent high (b.exponent - 2)
  (fromLow == .gt || (even && fromLow == .eq)) && (fromHigh == .lt || (even && fromHigh == .eq))

/-- The nearer of the two neighbours on the grid of `10 ^ unit` that reads back, if one does. -/
def Binary.nearestOnGrid? (b : Binary) (unit : Int) : Option Nat :=
  let num := b.fraction.1 * tenTo (-unit).toNat
  let den := b.fraction.2 * tenTo unit.toNat
  let below := num / den
  let near := roundDiv num den
  let far := if near = below then below + 1 else below
  if b.readsBack near unit then some near else if b.readsBack far unit then some far else none

/-- The first grid with a decimal that reads back, from `digits` digits on. -/
def Binary.shortestFrom (b : Binary) (leading : Int) : Nat → Nat → Nat × Int
  | 0, digits => (roundToUnit b.fraction.1 b.fraction.2 (leading + 1 - digits), leading + 1 - digits)
  | steps + 1, digits =>
    let unit := leading + 1 - digits
    match b.nearestOnGrid? unit with
    | some n => (n, unit)
    | none => b.shortestFrom leading steps (digits + 1)

/-- Trailing zeros of the digits go to the exponent, in at most `steps` steps. -/
def trimZeros : Nat → Nat → Int → Nat × Int
  | 0, digits, exponent => (digits, exponent)
  | steps + 1, digits, exponent =>
    if digits = 0 then (0, 0)
    else if digits % 10 = 0 then trimZeros steps (digits / 10) (exponent + 1)
    else (digits, exponent)

/-- A decimal whose digits do not end in zero; the decimal of zero has exponent zero. -/
def canonical (negative : Bool) (digits : Nat) (exponent : Int) : Decimal :=
  let (digits, exponent) := trimZeros (digits.log2 + 1) digits exponent
  .finite negative digits exponent

/-- The shortest decimal of a double. -/
def ofFloat (x : Float) : Decimal :=
  match Reading.ofFloat x with
  | .undefined => .undefined
  | .infinite negative => .infinite negative
  | .finite negative b =>
    if b.mantissa = 0 then .finite negative 0 0
    else
      let (digits, exponent) := b.shortestFrom b.leadingExponent 16 1
      canonical negative digits exponent

/-- The digits of a number in decimal notation. -/
def digitChars (n : Nat) : List Char := (Nat.repr n).toList

/-- The double nearest to a decimal; beyond the range of doubles it is infinite or zero. -/
def toFloat : Decimal → Float
  | .undefined => 0.0 / 0.0
  | .infinite negative => if negative then -(1.0 / 0.0) else 1.0 / 0.0
  | .finite negative digits exponent =>
    let leading := exponent + (digitChars digits).length
    let size : Float :=
      if digits = 0 ∨ leading < -400 then 0.0
      else if 400 < leading then 1.0 / 0.0
      else Float.ofScientific digits (exponent < 0) exponent.natAbs
    if negative then -size else size

end Decimal

/-- A double rounded to a number of places, a half going to the even neighbour. -/
def roundFloat (x : Float) (places : Nat) : Float :=
  match Decimal.Reading.ofFloat x with
  | .finite negative b =>
    Decimal.toFloat (.finite negative (b.roundToPlaces places) (-(places : Int)))
  | _ => x

end Greenlight
