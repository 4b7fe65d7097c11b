import Greenlight.Decimal.Shortest
import Greenlight.Text.Blank
import Greenlight.Text.DecimalDigit
import Greenlight.Text.Pieces

/-! # Numbers from text

Digits of every script count, blanks at the ends are passed over, and a single underscore may stand
between two digits. -/

namespace Greenlight.Decimal

open Text

/-- Blanks that are passed over in front of a number and behind it. -/
def isPadding (c : Char) : Bool := (9 ≤ c.toNat && c.toNat ≤ 13) || c == ' '

/-- A text in ASCII: digits of other scripts become ASCII digits, other blanks become spaces, and
every other character a question mark, which no number holds. -/
def plainChars (cs : List Char) : List Char :=
  if cs.all (·.toNat < 128) then cs
  else
    cs.map fun c =>
      if c.toNat < 127 then c
      else if isBlank c then ' '
      else match decimalDigit? c with
        | some d => Nat.digitChar d
        | none => '?'

/-- The text without the padding at its ends. -/
def trimPadding (cs : List Char) : List Char :=
  ((cs.dropWhile isPadding).reverse.dropWhile isPadding).reverse

/-- The text without its underscores, if each stands between two digits; `before` is the character
in front of the text. -/
def dropUnderscores (before : Char) : List Char → Option (List Char)
  | [] => some []
  | '_' :: rest =>
    match rest with
    | [] => none
    | d :: _ => if before.isDigit && d.isDigit then dropUnderscores '_' rest else none
  | c :: rest => (dropUnderscores c rest).map (c :: ·)

/-- The value of a row of digits. -/
def digitsValue (cs : List Char) : Nat := cs.foldl (fun n c => 10 * n + (c.toNat - 48)) 0

/-- The millionths that the digits behind a point stand for; digits after the sixth are left out. -/
def millionths (digits : List Char) : Nat := digitsValue ((digits ++ List.replicate 6 '0').take 6)

/-- A sign in front, negative or not, and the rest. -/
def takeSign : List Char → Bool × List Char
  | '-' :: rest => (true, rest)
  | '+' :: rest => (false, rest)
  | cs => (false, cs)

/-- Digits with an optional point among, before or behind them, and an optional exponent. -/
def readDigits (negative : Bool) (cs : List Char) : Option Decimal :=
  let whole := cs.takeWhile Char.isDigit
  let rest := cs.dropWhile Char.isDigit
  let (places, rest) :=
    match rest with
    | '.' :: rest => (rest.takeWhile Char.isDigit, rest.dropWhile Char.isDigit)
    | _ => ([], rest)
  let digits := whole ++ places
  if digits.isEmpty then none
  else
    let build (exponent : Int) : Option Decimal :=
      some (.finite negative (digitsValue digits) (exponent - places.length))
    match rest with
    | [] => build 0
    | e :: rest =>
      if e = 'e' ∨ e = 'E' then
        let (down, size) := takeSign rest
        if size.isEmpty || !size.all Char.isDigit then none
        else
          let n : Int := digitsValue size
          build (if down then -n else n)
      else none

/-- A decimal number in a text, or one of the words for the values without digits. -/
def read? (cs : List Char) : Option Decimal :=
  let (negative, body) := takeSign cs
  let word := String.ofList (body.map Char.toLower)
  if word = "inf" ∨ word = "infinity" then some (.infinite negative)
  else if word = "nan" then some .undefined
  else readDigits negative body

/-- The double that a text stands for. -/
def readFloat? (cs : List Char) : Option Float :=
  (dropUnderscores ' ' (trimPadding (plainChars cs)) >>= read?).map toFloat

/-- The value of a digit in bases up to sixteen. -/
def baseDigit? (base : Nat) (c : Char) : Option Nat :=
  let d :=
    if '0' ≤ c ∧ c ≤ '9' then c.toNat - 48
    else if 'a' ≤ c ∧ c ≤ 'f' then c.toNat - 87
    else if 'A' ≤ c ∧ c ≤ 'F' then c.toNat - 55
    else base
  if d < base then some d else none

/-- The mark that may stand in front of the digits of a base. -/
def dropBaseMark (base : Nat) (cs : List Char) : List Char :=
  match cs with
  | '0' :: mark :: rest =>
    let m := mark.toLower
    if (base = 2 ∧ m = 'b') ∨ (base = 8 ∧ m = 'o') ∨ (base = 16 ∧ m = 'x') then rest else cs
  | _ => cs

/-- The value of a row of digits of a base. -/
def readPlainDigits? (base : Nat) (cs : List Char) : Option Nat :=
  if cs.isEmpty then none else cs.foldlM (fun n c => (baseDigit? base c).map (base * n + ·)) 0

/-- The value of digits in a base, with single underscores between them. -/
def readBaseDigits? (base : Nat) (cs : List Char) : Option Nat :=
  let groups := piecesChars '_' cs
  if groups.any (·.isEmpty) then none else readPlainDigits? base groups.flatten

/-- The number of digits that a whole number starts with; none if underscores stand among them other
than singly between two digits. -/
def leadingDigits (cs : List Char) : Nat :=
  let body := (takeSign (trimPadding (plainChars cs))).2
  let groups := piecesChars '_' (body.takeWhile fun c => c.isDigit || c == '_')
  if groups.any (·.isEmpty) then 0 else groups.flatten.length

/-- The whole number that a text stands for in a base. -/
def readInt? (base : Nat) (cs : List Char) : Option Int :=
  let (negative, body) := takeSign (trimPadding (plainChars cs))
  (readBaseDigits? base (dropBaseMark base body)).map fun n => if negative then -(n : Int) else n

/-- A double cut off at the point. -/
def wholePart (negative : Bool) (b : Binary) : Int :=
  let n : Int := (b.fraction.1 / b.fraction.2 : Nat)
  if negative then -n else n

/-- The double nearest to a whole number, if there is a finite one. -/
def floatOfInt? (n : Int) : Option Float :=
  let x := toFloat (.finite (n < 0) n.natAbs 0)
  match Reading.ofFloat x with
  | .finite _ _ => some x
  | _ => none

end Greenlight.Decimal
