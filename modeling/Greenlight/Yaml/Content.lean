import Greenlight.Yaml.Tag
import Greenlight.Value.Datum
import Greenlight.Text.LowerCase

/-! # Contents of YAML scalars

The value of a scalar, read from its text as its tag says. -/

namespace Greenlight.Yaml

/-- A whole number with its defects. -/
def readWhole (base : Nat) (cs : List Char) : Except ReadError Int :=
  (Datum.readInt base cs (Text.quoted (String.ofList cs))).mapError .number

/-- A whole number from its digits to the base sixty. -/
def ofSixtieths (digits : List Int) : Int := digits.foldl (fun n digit => 60 * n + digit) 0

/-- The text of a number without underscores, and whether it is negative. -/
def splitSign (text : String) : Option (Bool × List Char) :=
  match text.toList.filter (· != '_') with
  | [] => none
  | '-' :: rest => some (true, rest)
  | '+' :: rest => some (false, rest)
  | cs => some (false, cs)

/-- A whole number: binary, octal, hexadecimal, to the base sixty, or decimal. -/
def readInt (text : String) : Except ReadError Datum :=
  match splitSign text with
  | none => .error .emptyNumber
  | some (negative, cs) => do
    let size ←
      match cs with
      | [] => .error .emptyNumber
      | ['0'] => pure 0
      | '0' :: 'b' :: rest => readWhole 2 rest
      | '0' :: 'x' :: rest => readWhole 16 rest
      | '0' :: _ => readWhole 8 cs
      | _ =>
        if cs.contains ':' then ofSixtieths <$> (Text.piecesChars ':' cs).mapM (readWhole 10)
        else readWhole 10 cs
    return .int (if negative then -size else size)

/-- A floating number with its defects. -/
def readReal (cs : List Char) : Except ReadError Float :=
  (Datum.readFloat cs (Text.quoted (String.ofList cs))).mapError .number

/-- The sum of floating digits to the base sixty behind a sum, the lowest digit first. Every place must
have a double. -/
def sumSixtieths (sum : Float) (place : Nat) : List Float → Except NumberError Float
  | [] => .ok sum
  | digit :: rest =>
    match Decimal.floatOfInt? place with
    | some unit => sumSixtieths (sum + digit * unit) (60 * place) rest
    | none => .error .beyondFloat

/-- A floating number: infinite, undefined, to the base sixty, or decimal. -/
def readFloat (text : String) : Except ReadError Datum :=
  match splitSign (Text.lower text) with
  | none => .error .emptyNumber
  | some (negative, cs) => do
    if cs = ".nan".toList then return .undefined 0
    let size ←
      if cs = ".inf".toList then pure (1.0 / 0.0 : Float)
      else if cs.contains ':' then do
        let digits ← (Text.piecesChars ':' cs).mapM readReal
        (sumSixtieths 0 1 digits.reverse).mapError .number
      else readReal cs
    return .float (if negative then -size else size)

/-- A truth value. -/
def readBool (text : String) : Except ReadError Datum :=
  let word := Text.lower text
  if ["yes", "true", "on"].contains word then .ok (.bool true)
  else if ["no", "false", "off"].contains word then .ok (.bool false)
  else .error .unknownWord

/-- A date, or a moment. -/
def readTimestamp (text : String) : Except ReadError Datum :=
  match Tag.timestamp? (Tag.withoutLineEnd text).toList with
  | none => .error .noTimestamp
  | some t =>
    (match t.clock with
     | none => Datum.date <$> Date.make t.year t.month t.day
     | some (hour, minute, second) => do
       let offset ← match t.zone with
         | none => pure none
         | some (negative, hours, minutes) =>
           let seconds : Int := hours * 3600 + minutes * 60
           some <$> checkOffset (if negative then -seconds else seconds)
       let date ← Date.make t.year t.month t.day
       let clock ← Clock.make hour minute second (Decimal.millionths t.fraction)
       return Datum.moment ⟨date, clock, offset⟩).mapError .calendar

/-- The value of a character in binary data, of sixty-four. -/
def sextet? (c : Char) : Option Nat :=
  if 'A' ≤ c ∧ c ≤ 'Z' then some (c.toNat - 65)
  else if 'a' ≤ c ∧ c ≤ 'z' then some (c.toNat - 71)
  else if '0' ≤ c ∧ c ≤ '9' then some (c.toNat + 4)
  else if c = '+' then some 62
  else if c = '/' then some 63
  else none

/-- The bytes of binary data, four characters for three bytes: `place` counts the characters of the
current group, `left` holds the bits left over, and `pads` counts the signs that fill up the end. -/
def readSextets (place left pads : Nat) : List Char → Option (List UInt8)
  | [] => if place = 0 then some [] else none
  | c :: rest =>
    if c = '=' then
      if 2 ≤ place then
        if 4 ≤ place + (pads + 1) then some [] else readSextets place left (pads + 1) rest
      else readSextets place left pads rest
    else
      match sextet? c with
      | none => readSextets place left pads rest
      | some n =>
        if place = 0 then readSextets 1 n 0 rest
        else if place = 1 then (readSextets 2 (n % 16) 0 rest).map ((left * 4 + n / 16).toUInt8 :: ·)
        else if place = 2 then (readSextets 3 (n % 4) 0 rest).map ((left * 16 + n / 4).toUInt8 :: ·)
        else (readSextets 0 0 0 rest).map ((left * 64 + n).toUInt8 :: ·)

/-- Binary data. -/
def readBinary (text : String) : Except ReadError Datum :=
  if text.toList.all (·.toNat < 128) then
    match readSextets 0 0 0 text.toList with
    | some bytes => .ok (.bytes bytes)
    | none => .error (.form .binary)
  else .error (.form .binary)

/-- How scalars with a tag are read, if the tag is one of scalars. -/
def scalarReader? (tag : String) : Option (String → Except ReadError Datum) :=
  if tag = Tag.standard "null" then some fun _ => .ok .null
  else if tag = Tag.standard "bool" then some readBool
  else if tag = Tag.standard "int" then some readInt
  else if tag = Tag.standard "float" then some readFloat
  else if tag = Tag.standard "binary" then some readBinary
  else if tag = Tag.standard "timestamp" then some readTimestamp
  else if tag = Tag.standard "str" then some fun text => .ok (.text text)
  else none

end Greenlight.Yaml
