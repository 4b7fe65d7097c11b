import Greenlight.Yaml.Source

/-! # Places in a YAML text

A cursor is the rest of a text with its place: the number of characters before it, its line and its
column. The character zero, which no text holds, stands for the end. A cursor cannot look at, or be moved
to, a place that cannot be read. -/

namespace Greenlight.Yaml

/-- The rest of a text and its place. -/
structure Cursor where
  rest : List Char
  /-- Why the text cannot be read behind the rest, if it does not end there. -/
  defect : Option ReadError
  /-- The number of characters of the whole text. -/
  size : Nat
  index : Nat
  line : Nat
  column : Nat

/-- A step of reading. -/
abbrev Scan := StateT Cursor (Except ReadError)

/-- The character that stands for the end of a text. -/
def endMark : Char := Char.ofNat 0

/-- Characters that end a line. -/
def isBreak (c : Char) : Bool :=
  c == '\n' || c == '\x85' || c == '\u2028' || c == '\u2029'

/-- The end of a line or of the text. -/
def isBreakOrEnd (c : Char) : Bool := isBreak c || c == endMark

/-- The end of a line or of the text, or a space. -/
def isSpaceOrEnd (c : Char) : Bool := isBreakOrEnd c || c == ' '

/-- Spaces and tabs. -/
def isGap (c : Char) : Bool := c == ' ' || c == '\t'

/-- The end of a line or of the text, a space or a tab. -/
def isBlankOrEnd (c : Char) : Bool := isSpaceOrEnd c || c == '\t'

/-- Letters, digits, the hyphen and the underscore. -/
def isWordChar (c : Char) : Bool := c.isAlphanum || c == '-' || c == '_'

namespace Cursor

/-- The start of a text. -/
def ofSource (s : Source) : Cursor := ⟨s.chars, s.defect, s.chars.length, 0, 0, 0⟩

/-- The place behind the next character. A byte order mark takes up no column. -/
def next (c : Cursor) : Cursor :=
  match c.rest with
  | [] => c
  | ch :: rest =>
    let c := { c with rest, index := c.index + 1 }
    if isBreak ch then { c with line := c.line + 1, column := 0 }
    else if ch == '\uFEFF' then c
    else { c with column := c.column + 1 }

/-- The place some characters ahead. -/
def skip : Nat → Cursor → Cursor
  | 0, c => c
  | n + 1, c => skip n c.next

end Cursor

namespace Scan

/-- Fails with a defect of form. -/
def fail {α : Type} (e : FormError) : Scan α := throw (.form e)

/-- A number of steps that no walk through the text exceeds. -/
def steps : Scan Nat := return 2 * (← get).size + 4

/-- The character some places ahead. -/
def peekAt (n : Nat) : Scan Char := do
  let c ← get
  match c.rest[n]?, c.defect with
  | some ch, _ => return ch
  | none, none => return endMark
  | none, some e => throw e

/-- The next character. -/
def peek : Scan Char := peekAt 0

/-- Passes over some characters. -/
def skip (n : Nat) : Scan Unit := do
  modify (·.skip n)
  let _ ← peek

/-- Passes over the next character. -/
def next : Scan Unit := skip 1

/-- Passes over the characters that fulfil a condition. -/
def span (p : Char → Bool) : Scan (List Char) := do
  let cs := (← get).rest.takeWhile p
  skip cs.length
  return cs

/-- Passes over spaces. -/
def skipSpaces : Scan Unit := do
  let _ ← span (· == ' ')

/-- Passes over a line end, if one comes next. It is read as a line feed, except for the two separators,
which stay what they are. -/
def takeBreak : Scan (List Char) := do
  let ch ← peek
  if isBreak ch then
    next
    return [if ch == '\x85' then '\n' else ch]
  else return []

/-- A mark of three characters that begins or ends a document comes next. -/
def atDocumentMark : Scan Bool := do
  let _ ← peekAt 2
  let rest := (← get).rest
  if ['-', '-', '-'].isPrefixOf rest || ['.', '.', '.'].isPrefixOf rest then
    return isBlankOrEnd (← peekAt 3)
  else return false

/-- Passes over a comment. -/
def skipComment : Scan Unit := do
  if (← peek) == '#' then
    let _ ← span (!isBreakOrEnd ·)

/-- Passes over a comment and the line end after it, if nothing else is on the line. -/
def skipRestOfLine (e : FormError) : Scan Unit := do
  skipSpaces
  skipComment
  unless isBreakOrEnd (← peek) do fail e
  let _ ← takeBreak

end Scan

end Greenlight.Yaml
