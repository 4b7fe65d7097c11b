import Greenlight.Decimal.Reader
import Greenlight.Host.Pattern
import Greenlight.Host.Script.Reader

/-! # Parameters

The values that a script refers to by name, sign or number, and how lines that are read become values of
variables. -/

namespace Greenlight.Host

/-- The value of a parameter named by a sign or a number. -/
def specialValue (p : Process) (name : String) : Option String :=
  match name with
  | "?" => some (Nat.repr p.status)
  | "#" => some (Nat.repr p.arguments.length)
  | "$" => some (Nat.repr p.number)
  | "!" => (p.jobs.getLast?).map fun job => Nat.repr job.number
  | "-" => some (String.ofList p.options)
  | "0" => some p.name
  | "@" => if p.arguments.isEmpty then none else some (Text.join " " p.arguments)
  | "*" =>
    let between := match Entries.get? p.bindings "IFS" with
      | some s => String.ofList (s.toList.take 1)
      | none => " "
    if p.arguments.isEmpty then none else some (Text.join between p.arguments)
  | _ => (Decimal.readPlainDigits? 10 name.toList).bind fun n => p.arguments[n - 1]?

/-- The value of a parameter. -/
def paramValue (p : Process) (name : String) : Option String :=
  if isName name then Entries.get? p.bindings name else specialValue p name

/-- Characters at which values fall apart. -/
def separatorsOf (p : Process) : Separators :=
  match paramValue p "IFS" with
  | some s => s.toList
  | none => [' ', '\t', '\n']

/-- Splits an argument of the form `name=value`. -/
def splitSetting (s : String) : String × Option String :=
  match Text.cutAtFirst '=' s.toList with
  | some (name, value) => (String.ofList name, some (String.ofList value))
  | none => (s, none)

/-! ## The folder of the user -/

/-- A word with the folder of the user for a tilde in front of it. -/
def replaceTilde (p : Process) (word : Word) : Word :=
  match word, Entries.get? p.bindings "HOME" with
  | .bare s :: rest, some home =>
    match s.toList with
    | '~' :: behind =>
      if behind.head? = some '/' || (behind.isEmpty && rest.isEmpty) then
        .quoted home :: .bare (String.ofList behind) :: rest
      else word
    | _ => word
  | word, _ => word

/-! ## Values that are kept aside -/

/-- The values of some variables. -/
def valuesOf (p : Process) (names : List String) : List (String × Option String) :=
  names.map fun name => (name, Entries.get? p.bindings name)

/-- Variables with values that were kept aside. -/
def restoreValues (kept : List (String × Option String)) (bindings : List (String × String)) :
    List (String × String) :=
  kept.foldl (fun found (name, value) =>
    match value with
    | some s => Entries.put name s found
    | none => Entries.erase name found) bindings

/-- Runs a step, and gives some variables the values back that they had before. -/
def keepingVariables (names : List String) (step : Run Unit) : Run Unit := do
  let outer := (← get).process
  step
  changeProcess fun p => { p with
    bindings := restoreValues (valuesOf outer names) p.bindings
    exported := p.exported.filter (!names.contains ·) ++ outer.exported.filter names.contains }

/-! ## Lines that are read -/

/-- A line with the characters marked that a backslash stands in front of; without `escapes`, backslashes
are characters like any other. -/
def markLine (escapes : Bool) : List Char → Marked
  | [] => []
  | '\\' :: c :: rest =>
    if escapes then (c, true) :: markLine escapes rest
    else ('\\', false) :: markLine escapes (c :: rest)
  | c :: rest => if escapes && c == '\\' then [] else (c, false) :: markLine escapes rest

/-- A character that separates. -/
def separates (separators : Separators) (m : Char × Bool) : Bool := !m.2 && separators.contains m.1

/-- A blank that separates. -/
def separatesAsBlank (separators : Separators) (m : Char × Bool) : Bool :=
  separates separators m && [' ', '\t', '\n'].contains m.1

/-- A line without the blanks in front that separate. -/
def dropBlanks (separators : Separators) (line : Marked) : Marked :=
  line.dropWhile (separatesAsBlank separators)

/-- The first field of a line, and what stands behind its end. -/
def takeField (separators : Separators) (line : Marked) : Marked × Marked :=
  let line := dropBlanks separators line
  let field := line.takeWhile (!separates separators ·)
  match dropBlanks separators (line.drop field.length) with
  | m :: rest =>
    (field, dropBlanks separators (if separates separators m then rest else m :: rest))
  | [] => (field, [])

/-- The values that a line gives variables: each takes a field, and the last one all that is left, unless
that is one field. -/
def assignLine (separators : Separators) : List String → Marked → List (String × String)
  | [], _ => []
  | [name], line =>
    let (field, behind) := takeField separators line
    let all := (dropBlanks separators line).reverse
    [(name, plain (if behind.isEmpty then field else (dropBlanks separators all).reverse))]
  | name :: names, line =>
    let (field, behind) := takeField separators line
    (name, plain field) :: assignLine separators names behind

end Greenlight.Host
