import Greenlight.Decimal.Shortest

/-! # Decimals as text

Three notations: the natural one, with the fewest digits that read back; one with a fixed number of
places; and the general one with a number of significant digits and no trailing zeros. -/

namespace Greenlight.Decimal

/-- Text of the values without digits. -/
def infiniteText (negative : Bool) : String := if negative then "-inf" else "inf"

/-- A sign in front of a negative number. -/
def signText (negative : Bool) : String := if negative then "-" else ""

/-- Digits in positional notation: `point` digits stand before the point, zeros filled in. -/
def positional (digits : List Char) (point : Int) : String :=
  if point ≤ 0 then "0." ++ String.ofList (List.replicate (-point).toNat '0' ++ digits)
  else if point.toNat < digits.length then
    String.ofList (digits.take point.toNat) ++ "." ++ String.ofList (digits.drop point.toNat)
  else String.ofList (digits ++ List.replicate (point.toNat - digits.length) '0')

/-- Digits with one place before the point and a signed exponent of at least two digits. -/
def scientific (digits : List Char) (exponent : Int) : String :=
  let tail := digits.drop 1
  let size := digitChars exponent.natAbs
  let padded := if size.length < 2 then '0' :: size else size
  String.ofList (digits.take 1 ++ (if tail.isEmpty then [] else '.' :: tail) ++
    'e' :: (if exponent < 0 then '-' else '+') :: padded)

/-- The natural notation: positional from `0.0001` up to sixteen digits before the point and with at
least one place after it, scientific elsewhere. -/
def text : Decimal → String
  | .undefined => "nan"
  | .infinite negative => infiniteText negative
  | .finite negative digits exponent =>
    let chars := digitChars digits
    let point := exponent + chars.length
    let body :=
      if digits = 0 then "0.0"
      else if -4 < point ∧ point ≤ 16 then
        let plain := positional chars point
        if exponent < 0 then plain else plain ++ ".0"
      else scientific chars (point - 1)
    signText negative ++ body

/-! ## A given number of digits -/

/-- A size with a number of places after the point. -/
def Binary.fixed (b : Binary) (places : Nat) : String :=
  let digits := digitChars (b.roundToPlaces places)
  let digits := List.replicate (places + 1 - digits.length) '0' ++ digits
  if places = 0 then String.ofList digits
  else
    let whole := digits.length - places
    String.ofList (digits.take whole ++ '.' :: digits.drop whole)

/-- The first `count` significant digits of a size, and the exponent of the leading one. -/
def Binary.significant (b : Binary) (count : Nat) : List Char × Int :=
  if b.mantissa = 0 then (List.replicate count '0', 0)
  else
    let leading := b.leadingExponent
    let digits := digitChars (roundToUnit b.fraction.1 b.fraction.2 (leading + 1 - count))
    (digits.take count, if count < digits.length then leading + 1 else leading)

/-- Digits without the zeros at their end; the leading digit stays. -/
def dropZeros (digits : List Char) : List Char :=
  digits.take 1 ++ ((digits.drop 1).reverse.dropWhile (· == '0')).reverse

/-- A size with at most `count` significant digits: positional from `0.0001` up to `count` digits before
the point, scientific elsewhere. -/
def Binary.general (b : Binary) (count : Nat) : String :=
  let (digits, leading) := b.significant count
  if -4 ≤ leading ∧ leading < count then positional (dropZeros digits) (leading + 1)
  else scientific (dropZeros digits) leading

end Decimal

open Decimal

/-- A double in natural notation. -/
def floatText (x : Float) : String := (ofFloat x).text

/-- A double, with its size written in some notation. -/
def textBy (written : Binary → String) (x : Float) : String :=
  match Reading.ofFloat x with
  | .undefined => "nan"
  | .infinite negative => infiniteText negative
  | .finite negative b => signText negative ++ written b

/-- A double with a number of places after the point. -/
def fixedText (places : Nat) (x : Float) : String := textBy (·.fixed places) x

/-- A double with at most six significant digits: positional from `0.0001` up to six digits before
the point, scientific elsewhere, without trailing zeros. -/
def generalText (x : Float) : String := textBy (·.general 6) x

end Greenlight
