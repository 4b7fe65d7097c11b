import Greenlight.Decimal.Reader

/-! # Arithmetic

Whole numbers of 64 bits with the usual operators. Names stand for the values of variables, and an
expression can give variables new values. A text is read into a term first; a reader takes a term from
the start of a text and gives it with what follows. -/

namespace Greenlight.Host.Arithmetic

/-- An expression. -/
inductive Term where
  | number (n : Int)
  | variableNamed (name : String)
  | negated (a : Term)
  | opposite (a : Term)
  | flipped (a : Term)
  | operation (sign : String) (a b : Term)
  | choice (condition a b : Term)
  /-- Gives a variable a value, made from its old one with an operator if there is one. -/
  | assigned (name : String) (sign : Option String) (a : Term)

/-- Why an expression has no value. -/
inductive Defect where
  | expecting (what : String)
  | divisionByZero
  /-- The value of a variable is no number. -/
  | noNumber (value : String)
deriving DecidableEq, Repr

/-- The cause in words, for an expression. -/
def Defect.message (expression : String) : Defect → String
  | .expecting what => s!"arithmetic expression: expecting {what}: " ++ "\"" ++ expression ++ "\""
  | .divisionByZero => "arithmetic expression: division by zero: \"" ++ expression ++ "\""
  | .noNumber value => s!"Illegal number: {value}"

/-! ## Numbers -/

/-- The number of 64 bits with the same remainder. -/
def wrap (n : Int) : Int := n.bmod 0x10000000000000000

/-- The nearest number of 64 bits. -/
def saturate (n : Int) : Int :=
  if n < -0x8000000000000000 then -0x8000000000000000
  else if n < 0x8000000000000000 then n else 0x7FFFFFFFFFFFFFFF

/-- The bits of a number as a number that is not negative. -/
def bits (n : Int) : Nat := (n % 0x10000000000000000).toNat

/-- The base that the first characters of a number name. -/
def baseOf : List Char → Nat
  | '0' :: 'x' :: _ | '0' :: 'X' :: _ => 16
  | '0' :: _ => 8
  | _ => 10

/-- A digit below the base. -/
def isDigitOf (base : Nat) (c : Char) : Bool := (Decimal.baseDigit? base c).isSome

/-- A number at the start of a text. -/
def takeNumber (cs : List Char) : Int × List Char :=
  let base := baseOf cs
  let digits := if base = 16 then cs.drop 2 else cs
  let taken := digits.takeWhile (isDigitOf base)
  (saturate ((Decimal.readPlainDigits? base taken).getD 0), digits.drop taken.length)

/-- A truth value as a number. -/
def ofBool (b : Bool) : Int := if b then 1 else 0

/-- The value of an operation; there is none when dividing by zero. -/
def apply (sign : String) (a b : Int) : Option Int :=
  match sign with
  | "==" => some (ofBool (a == b))
  | "!=" => some (ofBool (a != b))
  | "<" => some (ofBool (a < b))
  | "<=" => some (ofBool (a ≤ b))
  | ">" => some (ofBool (b < a))
  | ">=" => some (ofBool (b ≤ a))
  | "+" => some (wrap (a + b))
  | "-" => some (wrap (a - b))
  | "*" => some (wrap (a * b))
  | "/" => if b = 0 then none else some (wrap (a.tdiv b))
  | "%" => if b = 0 then none else some (a.tmod b)
  | "<<" => some (wrap (a * (1 <<< (bits b % 64) : Nat)))
  | ">>" => some (a >>> (bits b % 64))
  | "&" => some (wrap (bits a &&& bits b))
  | "|" => some (wrap (bits a ||| bits b))
  | "^" => some (wrap (bits a ^^^ bits b))
  | _ => none

/-! ## Reading -/

/-- The text behind blanks. -/
def skipBlank (cs : List Char) : List Char :=
  cs.dropWhile fun c => c == ' ' || c == '\t' || c == '\n'

/-- The operators by level, the weakest first. -/
def levels : List (List String) := [
  ["||"], ["&&"], ["|"], ["^"], ["&"], ["==", "!="], ["<=", ">=", "<", ">"], ["<<", ">>"],
  ["+", "-"], ["*", "/", "%"]]

/-- All signs of two characters that are no other sign with something behind it. -/
def doubleSigns : List String := ["||", "&&", "==", "!=", "<=", ">=", "<<", ">>"]

/-- The operator at the start of a text, and what follows it. -/
def operator? (cs : List Char) : Option (String × List Char) :=
  let cs := skipBlank cs
  let two := String.ofList (cs.take 2)
  if doubleSigns.contains two then some (two, cs.drop 2)
  else (cs.head?).map fun c => (c.toString, cs.drop 1)

/-- Operators that can be part of an assignment. -/
def changingSigns : List String := ["<<", ">>", "+", "-", "*", "/", "%", "&", "|", "^"]

/-- An assignment sign at the start of a text: its operator, and what follows it. -/
def assignSign? (cs : List Char) : Option (Option String × List Char) :=
  match operator? cs with
  | some ("=", rest) => some (none, rest)
  | some (sign, '=' :: rest) =>
    if changingSigns.contains sign then some (some sign, rest) else none
  | _ => none

/-- Characters of a name. -/
def isNamePart (c : Char) : Bool := c.isAlphanum || c == '_'

/-- A name at the start of a text. -/
def takeName? (cs : List Char) : Option (String × List Char) :=
  match cs with
  | c :: _ =>
    if isNamePart c && !c.isDigit then
      let name := cs.takeWhile isNamePart
      some (String.ofList name, cs.drop name.length)
    else none
  | [] => none

/-- A term that was read, and what follows it. -/
abbrev Taken := Except Defect (Term × List Char)

mutual

/-- A term of any kind. -/
def takeTerm : Nat → List Char → Taken
  | 0, _ => .error (.expecting "primary")
  | fuel + 1, cs =>
    match (takeName? (skipBlank cs)).bind fun (name, rest) =>
        (assignSign? rest).map fun (sign, rest) => (name, sign, rest) with
    | some (name, sign, rest) => do
      let (a, rest) ← takeTerm fuel rest
      return (.assigned name sign a, rest)
    | none => do
      let (condition, rest) ← takeLevel fuel levels cs
      match skipBlank rest with
      | '?' :: rest =>
        let (a, rest) ← takeTerm fuel rest
        match skipBlank rest with
        | ':' :: rest =>
          let (b, rest) ← takeTerm fuel rest
          return (.choice condition a b, rest)
        | _ => throw (.expecting "':'")
      | _ => return (condition, rest)

/-- Operations of a level. -/
def takeLevel : Nat → List (List String) → List Char → Taken
  | 0, _, _ => .error (.expecting "primary")
  | fuel + 1, [], cs => takeAtom fuel cs
  | fuel + 1, signs :: more, cs => do
    let (a, rest) ← takeLevel fuel more cs
    takeChain fuel signs more a rest

/-- The operations of a level behind a first operand. -/
def takeChain : Nat → List String → List (List String) → Term → List Char → Taken
  | 0, _, _, _, _ => .error (.expecting "primary")
  | fuel + 1, signs, more, a, cs =>
    match operator? cs with
    | some (sign, rest) =>
      if signs.contains sign then do
        let (b, rest) ← takeLevel fuel more rest
        takeChain fuel signs more (.operation sign a b) rest
      else .ok (a, cs)
    | none => .ok (a, cs)

/-- An operand. -/
def takeAtom : Nat → List Char → Taken
  | 0, _ => .error (.expecting "primary")
  | fuel + 1, cs =>
    let cs := skipBlank cs
    match cs with
    | '(' :: rest => do
      let (a, rest) ← takeTerm fuel rest
      match skipBlank rest with
      | ')' :: rest => return (a, rest)
      | _ => throw (.expecting "')'")
    | '-' :: rest => (takeAtom fuel rest).map fun (a, rest) => (.opposite a, rest)
    | '+' :: rest => takeAtom fuel rest
    | '!' :: rest => (takeAtom fuel rest).map fun (a, rest) => (.negated a, rest)
    | '~' :: rest => (takeAtom fuel rest).map fun (a, rest) => (.flipped a, rest)
    | c :: _ =>
      if c.isDigit then
        let (n, rest) := takeNumber cs
        .ok (.number n, rest)
      else
        match takeName? cs with
        | some (name, rest) => .ok (.variableNamed name, rest)
        | none => .error (.expecting "primary")
    | [] => .error (.expecting "primary")

end

/-- The term that a whole text is; an empty one is zero. -/
def Term.read (s : String) : Except Defect Term := do
  let cs := skipBlank s.toList
  if cs.isEmpty then return .number 0
  let (a, rest) ← takeTerm (30 * s.length + 30) cs
  if (skipBlank rest).isEmpty then return a else throw (.expecting "EOF")

/-! ## Values -/

/-- A number with a sign, as the value of a variable. -/
def numberOf (value : String) : Except Defect Int :=
  let cs := skipBlank value.toList
  let (negative, digits) := Decimal.takeSign cs
  let (n, rest) := takeNumber digits
  if cs.isEmpty then .ok 0
  else if (digits.head?.any Char.isDigit) && (skipBlank rest).isEmpty then
    .ok (if negative then -n else n)
  else .error (.noNumber value)

/-- The values that variables were given, the last one first. -/
abbrev Changes := List (String × Int)

/-- The value of a term, with the changes of variables so far. -/
def Term.eval (value : String → Option String) (changes : Changes) :
    Term → Except Defect (Int × Changes)
  | .number n => .ok (n, changes)
  | .variableNamed name => lookUpIn changes name
  | .negated a => do
    let (n, changes) ← a.eval value changes
    return (ofBool (n == 0), changes)
  | .opposite a => do
    let (n, changes) ← a.eval value changes
    return (wrap (-n), changes)
  | .flipped a => do
    let (n, changes) ← a.eval value changes
    return (-n - 1, changes)
  | .operation sign a b => do
    let (m, changes) ← a.eval value changes
    if sign = "&&" && m == 0 then return (0, changes)
    else if sign = "||" && m != 0 then return (1, changes)
    else
      let (n, changes) ← b.eval value changes
      if sign = "&&" || sign = "||" then return (ofBool (n != 0), changes)
      else combine sign m n changes
  | .choice condition a b => do
    let (n, changes) ← condition.eval value changes
    if n != 0 then a.eval value changes else b.eval value changes
  | .assigned name sign a => do
    let (n, changes) ← a.eval value changes
    match sign with
    | none => return (n, (name, n) :: changes)
    | some sign =>
      let (old, changes) ← lookUpIn changes name
      let (n, changes) ← combine sign old n changes
      return (n, (name, n) :: changes)
where
  /-- The value of a variable. -/
  lookUpIn (changes : Changes) (name : String) : Except Defect (Int × Changes) :=
    match changes.find? (·.1 == name) with
    | some (_, n) => .ok (n, changes)
    | none => (numberOf ((value name).getD "")).map fun n => (n, changes)
  /-- The value of an operation. -/
  combine (sign : String) (m n : Int) (changes : Changes) : Except Defect (Int × Changes) :=
    match apply sign m n with
    | some n => .ok (n, changes)
    | none => .error .divisionByZero

end Greenlight.Host.Arithmetic
