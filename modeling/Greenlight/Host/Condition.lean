import Greenlight.Decimal.Reader
import Greenlight.Host.Machine

/-! # Conditions

Conditions on texts, numbers and files, written with signs such as `-f` and `=`. A reader judges the
condition at the start of some arguments and says which argument was the last one it used. -/

namespace Greenlight.Host

/-- Why a condition makes no sense. -/
inductive ConditionDefect where
  | noNumber (s : String)
  /-- No argument follows a sign. -/
  | lacking (sign : String)
  /-- Something follows behind the last argument that belongs to the condition. -/
  | stray (before : String)
  | unclosed
deriving DecidableEq, Repr

/-- The defect in words. -/
def ConditionDefect.message : ConditionDefect → String
  | .noNumber s => s!"Illegal number: {s}"
  | .lacking sign => s!"{sign}: argument expected"
  | .stray before => s!"{before}: unexpected operator"
  | .unclosed => "closing paren expected"

/-- A number as an operand of a condition: decimal, with blanks around it. -/
def conditionNumber (s : String) : Except ConditionDefect Int :=
  let trim (cs : List Char) : List Char := cs.dropWhile fun c => c == ' ' || c == '\t' || c == '\n'
  let cs := (trim (trim s.toList).reverse).reverse
  let (negative, digits) := Decimal.takeSign cs
  if digits.isEmpty || !digits.all Char.isDigit then .error (.noNumber s)
  else
    let n : Int := Decimal.digitsValue digits
    .ok (if negative then -n else n)

/-- The node that a path leads to. -/
def nodeAt? (t : FileTree) (path : String) : Option Node :=
  match t.find path with
  | .ok (.found _ node) => some node
  | _ => none

/-- Signs of conditions on files. -/
def fileSigns : List String :=
  ["-e", "-f", "-d", "-r", "-w", "-s", "-x", "-h", "-L", "-c", "-b", "-p", "-S", "-g", "-u", "-k", "-O",
    "-G"]

/-- A condition on one argument. -/
def unaryCondition? (t : FileTree) (sign s : String) : Option Bool :=
  let there := (nodeAt? t s).isSome || (device? s).isSome
  match sign with
  | "-n" => some (!s.isEmpty)
  | "-z" => some s.isEmpty
  | "-e" => some there
  | "-f" => some (t.isFile s)
  | "-d" => some (t.isFolder s)
  | "-r" | "-w" => some there
  | "-s" => some (match nodeAt? t s with
      | some (.file content _) => !content.isEmpty
      | some _ => true
      | none => false)
  | "-x" => some (match nodeAt? t s with
      | some (.file _ executable) => executable
      | some _ => true
      | none => false)
  | "-h" | "-L" => some (match t.findEntry s with
      | .ok (.found _ (.link _)) => true
      | _ => false)
  | "-c" => some (device? s).isSome
  | "-b" | "-p" | "-S" | "-g" | "-u" | "-k" | "-t" => some false
  | "-O" | "-G" => some there
  | _ => none

/-- Signs of conditions on two numbers, with their meaning. -/
def numberSigns : List (String × (Int → Int → Bool)) := [
  ("-eq", (· == ·)), ("-ne", (· != ·)), ("-lt", fun a b => a < b), ("-le", fun a b => a ≤ b),
  ("-gt", fun a b => b < a), ("-ge", fun a b => b ≤ a)]

/-- Signs of conditions on two texts, with their meaning. -/
def textSigns : List (String × (String → String → Bool)) := [
  ("=", (· == ·)), ("==", (· == ·)), ("!=", (· != ·)), ("<", fun a b => a < b),
  (">", fun a b => b < a)]

/-- A condition on two arguments. -/
def binaryCondition? (sign a b : String) : Option (Except ConditionDefect Bool) :=
  match textSigns.find? (·.1 == sign), numberSigns.find? (·.1 == sign) with
  | some (_, meaning), _ => some (.ok (meaning a b))
  | none, some (_, meaning) => some do return meaning (← conditionNumber a) (← conditionNumber b)
  | none, none => none

/-- A sign stands between two arguments. -/
def isBinarySign (s : String) : Bool := (binaryCondition? s "0" "0").isSome

/-- What was found out about a condition: whether it holds, the last argument of it, and the arguments
that follow. -/
structure Judged where
  holds : Bool
  last : String
  rest : List String

/-- A judgement on a condition. -/
abbrev Judgement := Except ConditionDefect Judged

mutual

/-- A condition of which one part must hold. -/
def conditionOr (t : FileTree) : Nat → List String → Judgement
  | 0, args => .ok ⟨false, "", args⟩
  | fuel + 1, args => do
    let a ← conditionAnd t fuel args
    match a.rest with
    | "-o" :: rest =>
      let b ← conditionOr t fuel rest
      return { b with holds := a.holds || b.holds }
    | _ => return a

/-- A condition of which all parts must hold. -/
def conditionAnd (t : FileTree) : Nat → List String → Judgement
  | 0, args => .ok ⟨false, "", args⟩
  | fuel + 1, args => do
    let a ← conditionAtom t fuel args
    match a.rest with
    | "-a" :: rest =>
      let b ← conditionAnd t fuel rest
      return { b with holds := a.holds && b.holds }
    | _ => return a

/-- A condition without parts. -/
def conditionAtom (t : FileTree) : Nat → List String → Judgement
  | 0, args => .ok ⟨false, "", args⟩
  | fuel + 1, args =>
    match args with
    | [] => .ok ⟨false, "", []⟩
    | "!" :: [] => .ok ⟨true, "!", []⟩
    | "!" :: sign :: rest =>
      if rest.length = 1 && isBinarySign sign then binary "!" sign rest
      else do
        let a ← conditionAtom t fuel (sign :: rest)
        return { a with holds := !a.holds }
    | "(" :: first :: rest =>
      if isBinarySign first && !rest.isEmpty then binary "(" first rest
      else if first = ")" then .ok ⟨false, ")", rest⟩
      else do
        let a ← conditionOr t fuel (first :: rest)
        match a.rest with
        | ")" :: rest => return ⟨a.holds, ")", rest⟩
        | _ => throw .unclosed
    | a :: sign :: rest =>
      if isBinarySign sign && !((unaryCondition? t a "").isSome && rest.isEmpty) then binary a sign rest
      else
        match unaryCondition? t a sign with
        | some holds => .ok ⟨holds, sign, rest⟩
        | none => .ok ⟨!a.isEmpty, a, sign :: rest⟩
    | [s] => .ok ⟨!s.isEmpty, s, []⟩
where
  /-- A condition on two arguments. -/
  binary (a sign : String) : List String → Judgement
    | [] => .error (.lacking sign)
    | b :: rest =>
      match binaryCondition? sign a b with
      | some holds => do return ⟨← holds, b, rest⟩
      | none => .ok ⟨!a.isEmpty, a, sign :: b :: rest⟩

end

end Greenlight.Host
