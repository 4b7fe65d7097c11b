import Greenlight.Toml.Error

/-! # Numbers and points in time

Whole numbers in four bases, doubles, dates, times of day and moments. A reader gives the value and
what follows it, or nothing if no value of its kind comes next. -/

namespace Greenlight.Toml

/-! ## Points in time -/

/-- A number of some digits at the start of a text. -/
def fixedNumber? (digits : Nat) (cs : List Char) : Option (Nat × List Char) :=
  let found := cs.take digits
  if found.length = digits ∧ found.all Char.isDigit then
    some (Decimal.digitsValue found, cs.drop digits)
  else none

/-- What follows a mark at the start of a text. -/
def behind? (mark : Char) (cs : List Char) : Option (List Char) :=
  if cs.head? = some mark then some cs.tail else none

/-- The part of a second behind a point, in microseconds; further digits are left out. -/
def readFraction (cs : List Char) : Nat × List Char :=
  match cs with
  | '.' :: rest =>
    let digits := rest.takeWhile Char.isDigit
    if digits.isEmpty then (0, cs)
    else (Decimal.millionths digits, rest.drop digits.length)
  | _ => (0, cs)

/-- A time of day. -/
def readClock? (cs : List Char) : Option (Clock × List Char) := do
  let (hour, cs) ← fixedNumber? 2 cs
  let (minute, cs) ← fixedNumber? 2 (← behind? ':' cs)
  let (second, cs) ← fixedNumber? 2 (← behind? ':' cs)
  let (microsecond, cs) := readFraction cs
  let clock ← (Clock.make hour minute second microsecond).toOption
  return (clock, cs)

/-- An offset of hours and minutes behind a sign. -/
def readOffset? (cs : List Char) : Option (Int × List Char) := do
  let (hour, cs) ← fixedNumber? 2 cs
  let (minute, cs) ← fixedNumber? 2 (← behind? ':' cs)
  if hour ≤ 23 ∧ minute ≤ 59 then return ((hour * 3600 + minute * 60 : Nat), cs) else none

/-- The offset from universal time, if one comes next. -/
def readZone (cs : List Char) : Option Int × List Char :=
  match cs with
  | c :: rest =>
    if c = 'Z' ∨ c = 'z' then (some 0, rest)
    else if c = '+' ∨ c = '-' then
      match readOffset? rest with
      | some (seconds, rest) => (some (if c = '-' then -seconds else seconds), rest)
      | none => (none, cs)
    else (none, cs)
  | [] => (none, cs)

/-- The numbers of a date. -/
def readDay? (cs : List Char) : Option ((Nat × Nat × Nat) × List Char) := do
  let (year, cs) ← fixedNumber? 4 cs
  let (month, cs) ← fixedNumber? 2 (← behind? '-' cs)
  let (day, cs) ← fixedNumber? 2 (← behind? '-' cs)
  if 1 ≤ month ∧ month ≤ 12 ∧ 1 ≤ day ∧ day ≤ 31 then return ((year, month, day), cs) else none

/-- A time of day behind a date. -/
def readDayClock? (cs : List Char) : Option (Clock × List Char) :=
  match cs with
  | c :: rest => if c = 'T' ∨ c = 't' ∨ c = ' ' then readClock? rest else none
  | [] => none

/-- A date, a moment or a time of day; a date must be in the calendar. -/
def readTime? (cs : List Char) : Option (Except FormError (Datum × List Char)) :=
  match readDay? cs with
  | some ((year, month, day), cs) =>
    some <| match Date.make year month day with
      | .error _ => .error .calendar
      | .ok date =>
        match readDayClock? cs with
        | none => .ok (.date date, cs)
        | some (clock, cs) =>
          let (offset, cs) := readZone cs
          .ok (.moment ⟨date, clock, offset⟩, cs)
  | none => (readClock? cs).map fun (clock, cs) => .ok (.clock clock, cs)

/-! ## Numbers -/

/-- Digits of a base with single underscores between them: the digits, and what follows. -/
def takeDigits (base : Nat) : List Char → List Char × List Char
  | [] => ([], [])
  | c :: rest =>
    if (Decimal.baseDigit? base c).isSome then
      let (digits, after) := takeDigits base rest
      (c :: digits, after)
    else if c = '_' ∧ (rest.head?.bind (Decimal.baseDigit? base)).isSome then takeDigits base rest
    else ([], c :: rest)

/-- A row of digits that does not begin with an underscore. -/
def readDigits? (base : Nat) (cs : List Char) : Option (List Char × List Char) :=
  if (cs.head?.bind (Decimal.baseDigit? base)).isSome then some (takeDigits base cs) else none

/-- The base that a letter behind a zero stands for. -/
def baseOfLetter? : Char → Option Nat
  | 'x' => some 16
  | 'o' => some 8
  | 'b' => some 2
  | _ => none

/-- A whole number with the mark of its base. -/
def readBased? (cs : List Char) : Option (Datum × List Char) :=
  match cs with
  | '0' :: letter :: rest => do
    let base ← baseOfLetter? letter
    let (digits, rest) ← readDigits? base rest
    let n ← Decimal.readBaseDigits? base digits
    return (.int n, rest)
  | _ => none

/-- The digits in front of the point; a zero stands alone. -/
def readWhole? (cs : List Char) : Option (List Char × List Char) :=
  match cs with
  | '0' :: rest => some (['0'], rest)
  | _ => readDigits? 10 cs

/-- The places behind the point, if a point with digits comes next. -/
def readPlaces (cs : List Char) : List Char × List Char :=
  ((behind? '.' cs).bind (readDigits? 10)).getD ([], cs)

/-- The exponent, if one comes next. -/
def readExponent (cs : List Char) : Option Int × List Char :=
  match cs with
  | e :: rest =>
    if e = 'e' ∨ e = 'E' then
      let (down, rest) := Decimal.takeSign rest
      match readDigits? 10 rest with
      | some (digits, rest) =>
        let n : Int := Decimal.digitsValue digits
        (some (if down then -n else n), rest)
      | none => (none, cs)
    else (none, cs)
  | [] => (none, cs)

/-- A whole number of a limited number of digits. -/
def wholeNumber (negative : Bool) (digits : List Char) : Except NumberError Datum :=
  if maxIntDigits < digits.length then .error (.tooManyDigits digits.length)
  else
    let n : Int := Decimal.digitsValue digits
    .ok (.int (if negative then -n else n))

/-- A number in base ten. -/
def readDecimal? (cs : List Char) : Option (Except NumberError (Datum × List Char)) := do
  let (negative, cs) := Decimal.takeSign cs
  let (whole, cs) ← readWhole? cs
  let (places, cs) := readPlaces cs
  let (exponent, cs) := readExponent cs
  if places.isEmpty ∧ exponent = none then
    return (wholeNumber negative whole).map fun v => (v, cs)
  else
    let d : Decimal := .finite negative (Decimal.digitsValue (whole ++ places))
      (exponent.getD 0 - places.length)
    return .ok (.float d.toFloat, cs)

/-- A double without digits. -/
def readWord? (cs : List Char) : Option (Datum × List Char) :=
  let (negative, rest) := Decimal.takeSign cs
  if ['i', 'n', 'f'].isPrefixOf rest then
    some (.float (Decimal.infinite negative).toFloat, rest.drop 3)
  else if ['n', 'a', 'n'].isPrefixOf rest then some (.float Decimal.undefined.toFloat, rest.drop 3)
  else none

/-- A number. -/
def readNumber? (cs : List Char) : Option (Except NumberError (Datum × List Char)) :=
  match readBased? cs with
  | some found => some (.ok found)
  | none => (readDecimal? cs).orElse fun _ => (readWord? cs).map .ok

end Greenlight.Toml
