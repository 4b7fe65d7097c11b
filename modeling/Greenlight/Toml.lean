import Greenlight.Text.Lines
import Greenlight.Toml.Document
import Greenlight.Toml.Number
import Greenlight.Toml.Quoted

/-! # Reading TOML -/

namespace Greenlight.Toml

/-- Characters of a key without quotes. -/
def isBare (c : Char) : Bool := c.isAlphanum || c == '-' || c == '_'

/-- The text behind spaces and tabs. -/
def skipBlank (cs : List Char) : List Char := cs.dropWhile isBlank

/-- The text behind blanks, line ends and comments; `inComment` says whether it starts in one. -/
def skipFiller (inComment : Bool) : List Char → Except FormError (List Char)
  | [] => .ok []
  | c :: rest =>
    if c == '\n' then skipFiller false rest
    else if inComment then
      if isStray c then .error .strayControl else skipFiller true rest
    else if isBlank c then skipFiller false rest
    else if c == '#' then skipFiller true rest
    else .ok (c :: rest)

/-- One name of a key. -/
def readName (cs : List Char) : Except FormError (String × List Char) :=
  match cs with
  | [] => .error .badKey
  | c :: rest =>
    if isBare c then .ok (String.ofList (cs.takeWhile isBare), cs.dropWhile isBare)
    else if c = '"' ∨ c = '\'' then readShort c rest
    else .error .badKey

/-- The names of a key, with dots between them. -/
def readKey : Nat → List Char → Except FormError (Key × List Char)
  | 0, _ => .error .badKey
  | fuel + 1, cs => do
    let (name, cs) ← readName cs
    match skipBlank cs with
    | '.' :: rest =>
      let (names, rest) ← readKey fuel (skipBlank rest)
      return (name :: names, rest)
    | rest => return ([name], rest)

/-- A value that is neither an array nor a table. -/
def readAtom (cs : List Char) : Except ReadError (Value × List Char) :=
  if cs.head? = some '"' ∨ cs.head? = some '\'' then
    ((readText (cs.headD '"') cs.tail).map fun (s, rest) => (Value.datum (.text s), rest)).mapError .form
  else if "true".toList.isPrefixOf cs then .ok (.datum (.bool true), cs.drop 4)
  else if "false".toList.isPrefixOf cs then .ok (.datum (.bool false), cs.drop 5)
  else
    match readTime? cs with
    | some r => (r.map fun (d, rest) => (.datum d, rest)).mapError .form
    | none =>
      match readNumber? cs with
      | some r => (r.map fun (d, rest) => (.datum d, rest)).mapError .number
      | none => .error (.form .badValue)

mutual

/-- A value at the start of a text, and what follows it. -/
def readValue : Nat → List Char → Except ReadError (Value × List Char)
  | 0, _ => .error (.form .badValue)
  | fuel + 1, cs =>
    match cs with
    | '[' :: rest => do
      let (items, rest) ← readItems fuel rest
      return (.list items, rest)
    | '{' :: rest => do
      match skipBlank rest with
      | '}' :: rest => return (.table [], rest)
      | rest =>
        let (table, rest) ← readEntries fuel [] [] rest
        return (.table table, rest)
    | _ => readAtom cs

/-- The items of an array up to its closing bracket; a comma may stand behind the last one. -/
def readItems : Nat → List Char → Except ReadError (List Value × List Char)
  | 0, _ => .error (.form .openArray)
  | fuel + 1, cs => do
    match ← (skipFiller false cs).mapError .form with
    | ']' :: rest => return ([], rest)
    | cs =>
      let (item, rest) ← readValue fuel cs
      match ← (skipFiller false rest).mapError .form with
      | ']' :: rest => return ([item], rest)
      | ',' :: rest =>
        let (items, rest) ← readItems fuel rest
        return (item :: items, rest)
      | _ => .error (.form .openArray)

/-- The entries of a table between braces, after those that were read already. -/
def readEntries (fuel : Nat) (table : Table) (frozen : List Key) (cs : List Char) :
    Except ReadError (Table × List Char) :=
  match fuel with
  | 0 => .error (.form .openTable)
  | fuel + 1 => do
    let ((key, value), rest) ← readEntry fuel cs
    if isBelow frozen key then throw (.form .notAppendable)
    let table ← (table.change false (Table.add (key.getLast?.getD "") value) key.dropLast).mapError
      .form
    match skipBlank rest with
    | '}' :: rest => return (table, rest)
    | ',' :: rest =>
      readEntries fuel table (if isInline value then key :: frozen else frozen) (skipBlank rest)
    | _ => .error (.form .openTable)

/-- A key with its value. -/
def readEntry : Nat → List Char → Except ReadError ((Key × Value) × List Char)
  | 0, _ => .error (.form .badKey)
  | fuel + 1, cs => do
    let (key, rest) ← (readKey fuel cs).mapError .form
    match rest with
    | '=' :: rest =>
      let (value, rest) ← readValue fuel (skipBlank rest)
      return ((key, value), rest)
    | _ => .error (.form .badStatement)

end

/-- The names between the brackets of a header. -/
def readHeader (fuel : Nat) (closing cs : List Char) : Except FormError (Key × List Char) := do
  let (key, rest) ← readKey fuel (skipBlank cs)
  if closing.isPrefixOf rest then return (key, rest.drop closing.length) else .error .badHeader

/-- One statement, if one comes next on the line. -/
def readStatement (fuel : Nat) (d : Document) (cs : List Char) :
    Except ReadError (Document × List Char) :=
  match cs with
  | [] => .ok (d, cs)
  | '[' :: '[' :: rest => do
    let (key, rest) ← (readHeader fuel [']', ']'] rest).mapError .form
    let d ← (d.extend key).mapError .form
    return (d, rest)
  | '[' :: rest => do
    let (key, rest) ← (readHeader fuel [']'] rest).mapError .form
    let d ← (d.declare key).mapError .form
    return (d, rest)
  | c :: _ =>
    if c = '\n' ∨ c = '#' then .ok (d, cs)
    else if isBare c ∨ c = '"' ∨ c = '\'' then do
      let ((key, value), rest) ← readEntry fuel cs
      let d ← (d.add key value).mapError .form
      return (d, rest)
    else .error (.form .badStatement)

/-- The text behind the end of a line; a comment may stand in front of it. -/
def endLine (cs : List Char) : Except FormError (List Char) :=
  match skipBlank cs with
  | [] => .ok []
  | '\n' :: rest => .ok rest
  | '#' :: rest =>
    if (rest.takeWhile (· != '\n')).any isStray then .error .strayControl
    else .ok (rest.dropWhile (· != '\n')).tail
  | _ => .error .trailing

/-- Statements, one on a line. A statement has `depth` as its fuel. -/
def readLines (depth : Nat) : Nat → Document → List Char → Except ReadError Table
  | 0, d, _ => .ok d.table
  | fuel + 1, d, cs =>
    if cs.isEmpty then .ok d.table
    else do
      let (d, rest) ← readStatement depth d (skipBlank cs)
      readLines depth fuel d (← (endLine rest).mapError .form)

/-- The entries of a document. Every character takes three steps of a statement at most. -/
def read (cs : List Char) : Except ReadError Table :=
  let cs := Text.shortenLineEnds cs
  let length := cs.length
  readLines (3 * length + 3) (length + 1) Document.empty cs

end Greenlight.Toml
