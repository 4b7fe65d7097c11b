import Greenlight.Yaml.Cursor
import Greenlight.Text.Pieces
import Greenlight.Json.Reader

/-! # Tags of scalars

A tag says how the text of a scalar is read. A plain scalar without a tag gets the one of the first
form that its text has: truth value, floating number, whole number, merge mark, null, point in time,
value mark, reserved mark, or else text. -/

namespace Greenlight.Yaml.Tag

/-- A tag of the standard types. -/
def standard (name : String) : String := "tag:yaml.org,2002:" ++ name

/-- Words for truth values. -/
def boolWords : List String := [
  "yes", "Yes", "YES", "no", "No", "NO", "true", "True", "TRUE", "false", "False", "FALSE",
  "on", "On", "ON", "off", "Off", "OFF"]

/-- Words for null. -/
def nullWords : List String := ["", "~", "null", "Null", "NULL"]

/-- A digit or an underscore. -/
def isDigitLike (c : Char) : Bool := c.isDigit || c == '_'

/-- A text without the sign in front of it. -/
def dropSign (cs : List Char) : List Char :=
  match cs with
  | c :: rest => if c == '-' || c == '+' then rest else cs
  | [] => []

/-- A text begins with a digit and goes on with digits and underscores. -/
def isDigitRun (cs : List Char) : Bool :=
  match cs with
  | c :: rest => c.isDigit && rest.all isDigitLike
  | [] => false

/-- A part of a number to the base sixty: one digit, or two below sixty. -/
def isSixtieth (cs : List Char) : Bool :=
  match cs with
  | [a] => a.isDigit
  | [a, b] => '0' ≤ a && a ≤ '5' && b.isDigit
  | _ => false

/-- Parts to the base sixty behind a first part that fulfils a condition. -/
def isSexagesimal (first : List Char → Bool) (cs : List Char) : Bool :=
  match Text.piecesChars ':' cs with
  | head :: part :: parts => first head && (part :: parts).all isSixtieth
  | _ => false

/-- Forms of whole numbers: binary, octal, decimal, hexadecimal, and to the base sixty. -/
def isInt (cs : List Char) : Bool :=
  let body := dropSign cs
  let startsAboveZero (cs : List Char) : Bool := isDigitRun cs && cs.head? != some '0'
  match body with
  | '0' :: 'b' :: rest => !rest.isEmpty && rest.all fun c => c == '0' || c == '1' || c == '_'
  | '0' :: 'x' :: rest =>
    !rest.isEmpty && rest.all fun c => (Json.hexDigit? c).isSome || c == '_'
  | ['0'] => true
  | '0' :: rest => rest.all fun c => ('0' ≤ c && c ≤ '7') || c == '_'
  | _ => startsAboveZero body || isSexagesimal startsAboveZero body

/-- Nothing, or an exponent with a sign. -/
def isExponentOrEmpty (cs : List Char) : Bool :=
  match cs with
  | [] => true
  | e :: sign :: rest =>
    (e == 'e' || e == 'E') && (sign == '-' || sign == '+') && !rest.isEmpty && rest.all Char.isDigit
  | _ => false

/-- Forms of floating numbers: with a point, to the base sixty with a point, infinite, undefined. -/
def isFloat (cs : List Char) : Bool :=
  let body := dropSign cs
  let afterPlaces (cs : List Char) := isExponentOrEmpty (cs.dropWhile isDigitLike)
  (match Text.cutAtFirst '.' body with
   | some (whole, rest) =>
     (isDigitRun whole && afterPlaces rest) ||
       (isSexagesimal isDigitRun whole && rest.all isDigitLike) ||
       (whole.isEmpty && ["inf", "Inf", "INF"].contains (String.ofList rest))
   | none => false) ||
  (match cs with
   | '.' :: c :: rest =>
     (c.isDigit && afterPlaces rest) || ["nan", "NaN", "NAN"].contains (String.ofList (c :: rest))
   | _ => false)

/-! ## Points in time -/

/-- The parts of a point in time as they are written; the clock is missing from a mere date. -/
structure Timestamp where
  year : Nat
  month : Nat
  day : Nat
  clock : Option (Nat × Nat × Nat)
  fraction : List Char
  /-- The sign and size of the offset from universal time. -/
  zone : Option (Bool × Nat × Nat)

/-- At least `least` and at most `most` digits at the start of a text. -/
def takeDigits (least most : Nat) (cs : List Char) : Option (Nat × List Char) :=
  let digits := (cs.take most).takeWhile Char.isDigit
  if digits.length < least then none
  else some (Decimal.digitsValue digits, cs.drop digits.length)

/-- A character at the start of a text. -/
def takeChar (c : Char) : List Char → Option (List Char)
  | d :: rest => if d = c then some rest else none
  | [] => none

/-- The mark between a date and a time of day. -/
def takeClockMark (cs : List Char) : Option (List Char) :=
  match cs with
  | c :: rest =>
    if c == 'T' || c == 't' then some rest
    else if isGap c then some (rest.dropWhile isGap)
    else none
  | [] => none

/-- An offset from universal time, up to the end of the text. -/
def takeZone (cs : List Char) : Option (Option (Bool × Nat × Nat)) :=
  match cs.dropWhile isGap with
  | [] => if cs.isEmpty then some none else none
  | ['Z'] => some (some (false, 0, 0))
  | sign :: rest => do
    if sign != '-' && sign != '+' then none
    let (hours, rest) ← takeDigits 1 2 rest
    if rest.isEmpty then return some (sign == '-', hours, 0)
    let (minutes, rest) ← takeDigits 2 2 (← takeChar ':' rest)
    if rest.isEmpty then return some (sign == '-', hours, minutes) else none

/-- The parts of a point in time. -/
def timestamp? (cs : List Char) : Option Timestamp := do
  let (year, rest) ← takeDigits 4 4 cs
  let (month, rest) ← takeDigits 1 2 (← takeChar '-' rest)
  let (day, rest) ← takeDigits 1 2 (← takeChar '-' rest)
  if rest.isEmpty then return ⟨year, month, day, none, [], none⟩
  let (hour, rest) ← takeDigits 1 2 (← takeClockMark rest)
  let (minute, rest) ← takeDigits 2 2 (← takeChar ':' rest)
  let (second, rest) ← takeDigits 2 2 (← takeChar ':' rest)
  let (fraction, rest) :=
    match rest with
    | '.' :: rest => (rest.takeWhile Char.isDigit, rest.dropWhile Char.isDigit)
    | _ => ([], rest)
  return ⟨year, month, day, some (hour, minute, second), fraction, ← takeZone rest⟩

/-- A plain scalar is a point in time; a mere date has two digits for month and day. -/
def isTimestamp (cs : List Char) : Bool :=
  match timestamp? cs with
  | some t => t.clock.isSome || cs.length == 10
  | none => false

/-- The name of the type whose form a line has. -/
def formOf (text : String) : String :=
  let cs := text.toList
  if boolWords.contains text then "bool"
  else if isFloat cs then "float"
  else if isInt cs then "int"
  else if text = "<<" then "merge"
  else if nullWords.contains text then "null"
  else if isTimestamp cs then "timestamp"
  else if text = "=" then "value"
  else if text = "!" ∨ text = "&" ∨ text = "*" then "yaml"
  else "str"

/-- The text in front of a line end behind it. A line end alone is a text of its own. -/
def withoutLineEnd (text : String) : String :=
  if text.toList.getLast? = some '\n' ∧ text ≠ "\n" then String.ofList text.toList.dropLast else text

/-- The tag that the text of a scalar asks for. One line end may stand behind every form. -/
def ofText (text : String) : String := standard (formOf (withoutLineEnd text))

end Greenlight.Yaml.Tag
