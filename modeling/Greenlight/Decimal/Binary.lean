/-! # Doubles as binary fractions

A finite double is a natural number times a power of two, with a sign. -/

namespace Greenlight.Decimal

/-- The size of a finite double, `mantissa * 2 ^ exponent`. -/
structure Binary where
  mantissa : Nat
  exponent : Int
  /-- The gap to the next smaller double is half the gap to the next larger one. -/
  narrowBelow : Bool
deriving DecidableEq, Repr

/-- What the bits of a double stand for. -/
inductive Reading where
  | finite (negative : Bool) (size : Binary)
  | infinite (negative : Bool)
  | undefined

/-- Reads the bits of a double. -/
def Reading.ofBits (bits : UInt64) : Reading :=
  let negative := bits >>> 63 == 1
  let scale := ((bits >>> 52) &&& 0x7FF).toNat
  let fraction := (bits &&& 0xFFFFFFFFFFFFF).toNat
  if scale == 0x7FF then
    if fraction == 0 then .infinite negative else .undefined
  else if scale == 0 then .finite negative ⟨fraction, -1074, false⟩
  else .finite negative ⟨0x10000000000000 + fraction, (scale : Int) - 1075, fraction == 0 && scale > 1⟩

/-- Reads a double. -/
def Reading.ofFloat (x : Float) : Reading := .ofBits x.toBits

/-- The size as a quotient of natural numbers. -/
def Binary.fraction (b : Binary) : Nat × Nat :=
  (b.mantissa <<< b.exponent.toNat, 1 <<< (-b.exponent).toNat)

/-- The value of a finite double as a rational number. -/
def Binary.toRat (negative : Bool) (b : Binary) : Rat :=
  let size : Rat := mkRat b.fraction.1 b.fraction.2
  if negative then -size else size

end Greenlight.Decimal
