import Greenlight.Json
import Greenlight.Decimal.Reader

/-! # Reading JSON

The reader takes a value from the start of a text and returns what follows it. -/

namespace Greenlight.Json

/-- White space between tokens. -/
def isSpace (c : Char) : Bool := c == ' ' || c == '\n' || c == '\t' || c == '\r'

/-- The text after white space. -/
def skipSpace (cs : List Char) : List Char := cs.dropWhile isSpace

/-- The value of a hexadecimal digit. -/
def hexDigit? (c : Char) : Option Nat :=
  if '0' ≤ c ∧ c ≤ '9' then some (c.toNat - 48)
  else if 'a' ≤ c ∧ c ≤ 'f' then some (c.toNat - 87)
  else if 'A' ≤ c ∧ c ≤ 'F' then some (c.toNat - 55)
  else none

/-- The value of four hexadecimal digits. -/
def hexFour? (a b c d : Char) : Option Nat := do
  return (((← hexDigit? a) * 16 + (← hexDigit? b)) * 16 + (← hexDigit? c)) * 16 + (← hexDigit? d)

/-- A code unit that begins a pair. -/
def isLeading (n : Nat) : Bool := 0xD800 ≤ n && n < 0xDC00

/-- A code unit that ends a pair. -/
def isTrailing (n : Nat) : Bool := 0xDC00 ≤ n && n < 0xE000

/-- The character of an escape with one letter. -/
def letterEscape? : Char → Option Char
  | '"' => some '"'
  | '\\' => some '\\'
  | '/' => some '/'
  | 'b' => some '\x08'
  | 'f' => some '\x0c'
  | 'n' => some '\n'
  | 'r' => some '\r'
  | 't' => some '\t'
  | _ => none

/-- The characters of a text up to its closing quote, and what follows it. -/
def readText : List Char → Option (List Char × List Char)
  | [] => none
  | '"' :: rest => some ([], rest)
  | '\\' :: 'u' :: a :: b :: c :: d :: rest => do
    let n ← hexFour? a b c d
    if isLeading n then
      match rest with
      | '\\' :: 'u' :: e :: f :: g :: h :: rest =>
        let m ← hexFour? e f g h
        if isTrailing m then
          let (cs, rest) ← readText rest
          return (Char.ofNat (0x10000 + (n - 0xD800) * 0x400 + (m - 0xDC00)) :: cs, rest)
        else none
      | _ => none
    else if isTrailing n then none
    else
      let (cs, rest) ← readText rest
      return (Char.ofNat n :: cs, rest)
  | '\\' :: e :: rest => do
    let c ← letterEscape? e
    let (cs, rest) ← readText rest
    return (c :: cs, rest)
  | c :: rest =>
    if c.toNat < 32 then none
    else do
      let (cs, rest) ← readText rest
      return (c :: cs, rest)

/-- The digits of a fraction, if a point with digits comes next. -/
def readPlaces : List Char → List Char × List Char
  | '.' :: rest =>
    let places := rest.takeWhile Char.isDigit
    if places.isEmpty then ([], '.' :: rest) else (places, rest.dropWhile Char.isDigit)
  | cs => ([], cs)

/-- The exponent, if one comes next. -/
def readExponent (cs : List Char) : Option Int × List Char :=
  match cs with
  | e :: rest =>
    if e = 'e' ∨ e = 'E' then
      let (down, after) := Decimal.takeSign rest
      let size := after.takeWhile Char.isDigit
      if size.isEmpty then (none, cs)
      else
        let n : Int := Decimal.digitsValue size
        (some (if down then -n else n), after.dropWhile Char.isDigit)
    else (none, cs)
  | [] => (none, cs)

/-- A number without its sign. -/
def readNumber (negative : Bool) (cs : List Char) : Option (Json × List Char) :=
  let whole := if cs.head? = some '0' then ['0'] else cs.takeWhile Char.isDigit
  if whole.isEmpty then none
  else
    let (places, rest) := readPlaces (cs.drop whole.length)
    let (exponent, rest) := readExponent rest
    if places.isEmpty ∧ exponent = none then
      let n : Int := Decimal.digitsValue whole
      some (.int (if negative then -n else n), rest)
    else
      some (.real (Decimal.canonical negative (Decimal.digitsValue (whole ++ places))
        (exponent.getD 0 - places.length)), rest)

/-- A word at the start of a text, and what follows it. -/
def readWord (word : String) (json : Json) (cs : List Char) : Option (Json × List Char) :=
  if word.toList.isPrefixOf cs then some (json, cs.drop word.length) else none

/-- A value that is neither a list nor an object. -/
def readAtom (cs : List Char) : Option (Json × List Char) :=
  match cs with
  | '"' :: rest => (readText rest).map fun (s, rest) => (.text (String.ofList s), rest)
  | 'n' :: _ => readWord "null" .null cs
  | 't' :: _ => readWord "true" (.bool true) cs
  | 'f' :: _ => readWord "false" (.bool false) cs
  | 'N' :: _ => readWord "NaN" (.real .undefined) cs
  | 'I' :: _ => readWord "Infinity" (.real (.infinite false)) cs
  | '-' :: 'I' :: _ => readWord "-Infinity" (.real (.infinite true)) cs
  | '-' :: rest => readNumber true rest
  | _ => readNumber false cs

mutual

/-- A value at the start of a text. -/
def readValue : Nat → List Char → Option (Json × List Char)
  | 0, _ => none
  | fuel + 1, cs =>
    match cs with
    | '[' :: rest =>
      match skipSpace rest with
      | ']' :: rest => some (.list [], rest)
      | rest => (readItems fuel rest).map fun (items, rest) => (.list items, rest)
    | '{' :: rest =>
      match skipSpace rest with
      | '}' :: rest => some (.object [], rest)
      | rest => (readEntries fuel rest).map fun (entries, rest) => (.object entries, rest)
    | _ => readAtom cs

/-- The items of a list up to its closing bracket. -/
def readItems : Nat → List Char → Option (List Json × List Char)
  | 0, _ => none
  | fuel + 1, cs => do
    let (item, rest) ← readValue fuel cs
    match skipSpace rest with
    | ',' :: rest =>
      let (items, rest) ← readItems fuel (skipSpace rest)
      return (item :: items, rest)
    | ']' :: rest => return ([item], rest)
    | _ => none

/-- The entries of an object up to its closing brace. -/
def readEntries : Nat → List Char → Option (List (String × Json) × List Char)
  | 0, _ => none
  | fuel + 1, cs => do
    match cs with
    | '"' :: rest =>
      let (key, rest) ← readText rest
      match skipSpace rest with
      | ':' :: rest =>
        let (value, rest) ← readValue fuel (skipSpace rest)
        match skipSpace rest with
        | ',' :: rest =>
          let (entries, rest) ← readEntries fuel (skipSpace rest)
          return ((String.ofList key, value) :: entries, rest)
        | '}' :: rest => return ([(String.ofList key, value)], rest)
        | _ => none
      | _ => none
    | _ => none

end

/-- A text that holds one value and white space around it. -/
def readChars? (cs : List Char) : Option Json :=
  match readValue (2 * cs.length + 2) (skipSpace cs) with
  | some (json, rest) => if (skipSpace rest).isEmpty then some json else none
  | none => none

/-- A text that holds one value and white space around it. -/
def read? (s : String) : Option Json := readChars? s.toList

end Greenlight.Json
