import Greenlight.Value.Calendar
import Greenlight.Decimal.Notation
import Greenlight.Decimal.Reader
import Greenlight.Text.Quoted

/-! # Data

The values that hold no other values. They are what can stand as a key of a mapping or as a member of a
set: two of them are the same if they are equal as numbers, texts, bytes, dates or moments. An undefined
number equals no number, so it is the same as itself only, wherever it is met again. -/

namespace Greenlight

/-- A value that holds no other values. -/
inductive Datum where
  | null
  | bool (b : Bool)
  | int (n : Int)
  | float (x : Float)
  /-- An undefined number. Those of one origin are one and the same. -/
  | undefined (origin : Nat)
  | text (s : String)
  | bytes (b : List UInt8)
  | date (d : Date)
  | clock (c : Clock)
  | moment (m : Moment)
deriving Inhabited

/-- Why a datum makes no number, or a number no text. -/
inductive NumberError where
  /-- The text or bytes, as they are shown, are no number. -/
  | notFloat (shown : String)
  | notInt (base : Nat) (shown : String)
  | undefinedToInt
  | infiniteToInt
  | beyondFloat
  /-- A whole number is written with too many digits. -/
  | tooManyDigits (digits : Nat)
  /-- A whole number would have too many digits if it were written. -/
  | tooLong
  /-- Neither a number nor a text. -/
  | wrongType
deriving DecidableEq, Repr

/-- The cause in words. -/
def NumberError.message : NumberError → String
  | .notFloat shown => "could not convert string to float: " ++ shown
  | .notInt base shown =>
    s!"invalid literal for int() with base {base}: " ++ String.ofList (shown.toList.take 200)
  | .undefinedToInt => "cannot convert float NaN to integer"
  | .infiniteToInt => "cannot convert float infinity to integer"
  | .beyondFloat => "int too large to convert to float"
  | .tooManyDigits digits =>
    s!"Exceeds the limit (4300 digits) for integer string conversion: value has {digits} digits; " ++
      "use sys.set_int_max_str_digits() to increase the limit"
  | .tooLong =>
    "Exceeds the limit (4300 digits) for integer string conversion; " ++
      "use sys.set_int_max_str_digits() to increase the limit"
  | .wrongType => "not a number"

/-- The longest row of digits that is read or written as a whole number in base ten. -/
def maxIntDigits : Nat := 4300

namespace Datum

/-- The rational number that a datum stands for; truth values count as zero and one. -/
def number? : Datum → Option Rat
  | .bool b => some (if b then 1 else 0)
  | .int n => some n
  | .float x =>
    match Decimal.Reading.ofFloat x with
    | .finite negative size => some (size.toRat negative)
    | _ => none
  | _ => none

/-- Two keys of a mapping or members of a set are the same. -/
def same (a b : Datum) : Bool :=
  match a, b with
  | .null, .null => true
  | .float x, .float y => x == y
  | .undefined m, .undefined n => m == n
  | .text s, .text t => s == t
  | .bytes s, .bytes t => s == t
  | .date s, .date t => s == t
  | .clock s, .clock t => s == t
  | .moment s, .moment t => s.same t
  | _, _ =>
    match a.number?, b.number? with
    | some x, some y => x == y
    | _, _ => false

/-- Empty texts, zeros, `null` and `false` do not hold. -/
def holds : Datum → Bool
  | .null => false
  | .bool b => b
  | .int n => n != 0
  | .float x => !(x == 0)
  | .text s => !s.isEmpty
  | .bytes b => !b.isEmpty
  | _ => true

/-- A whole number in digits. -/
def intText (n : Int) : Except NumberError String :=
  let digits := Nat.repr n.natAbs
  if maxIntDigits < digits.length then .error .tooLong
  else .ok (if n < 0 then "-" ++ digits else digits)

/-- A datum as it is shown inside messages. -/
def shown : Datum → Except NumberError String
  | .null => .ok "None"
  | .bool b => .ok (if b then "True" else "False")
  | .int n => intText n
  | .float x => .ok (floatText x)
  | .undefined _ => .ok "nan"
  | .text s => .ok (Text.quoted s)
  | .bytes b => .ok (Text.quotedBytes b)
  | .date d => .ok d.shown
  | .clock c => .ok c.shown
  | .moment m => .ok m.shown

/-- A datum as text: texts as they are, dates and moments in digits, all else as it is shown. -/
def toText : Datum → Except NumberError String
  | .text s => .ok s
  | .date d => .ok d.text
  | .clock c => .ok c.text
  | .moment m => .ok m.text
  | d => d.shown

/-! ## Numbers -/

/-- Bytes as characters, for reading numbers; bytes beyond ASCII belong to no number. -/
def byteChars (b : List UInt8) : List Char :=
  b.map fun x => if x < 128 then Char.ofNat x.toNat else '?'

/-- The double that a text stands for; in a message the text is given as it is shown. -/
def readFloat (cs : List Char) (shown : String) : Except NumberError Float :=
  (Decimal.readFloat? cs).elim (.error (.notFloat shown)) .ok

/-- The double that a datum stands for. -/
def toFloat : Datum → Except NumberError Float
  | .float x => .ok x
  | .undefined _ => .ok (0.0 / 0.0)
  | .bool b => .ok (if b then 1 else 0)
  | .int n => (Decimal.floatOfInt? n).elim (.error .beyondFloat) .ok
  | .text s => readFloat s.toList (Text.quoted s)
  | .bytes b => readFloat (byteChars b) (Text.quotedBytes b)
  | _ => .error .wrongType

/-- Reads a whole number in a base. In base ten the digits that it starts with are counted first, before
anything behind them is looked at. -/
def readInt (base : Nat) (cs : List Char) (shown : String) : Except NumberError Int :=
  let digits := if base = 10 then Decimal.leadingDigits cs else 0
  if maxIntDigits < digits then .error (.tooManyDigits digits)
  else (Decimal.readInt? base cs).elim (.error (.notInt base shown)) .ok

/-- The whole number that a datum stands for; a double is cut off at the point. -/
def toInt : Datum → Except NumberError Int
  | .int n => .ok n
  | .bool b => .ok (if b then 1 else 0)
  | .float x =>
    match Decimal.Reading.ofFloat x with
    | .undefined => .error .undefinedToInt
    | .infinite _ => .error .infiniteToInt
    | .finite negative size => .ok (Decimal.wholePart negative size)
  | .undefined _ => .error .undefinedToInt
  | .text s => readInt 10 s.toList (Text.quoted s)
  | .bytes b => readInt 10 (byteChars b) (Text.quotedBytes b)
  | _ => .error .wrongType

end Datum

end Greenlight
