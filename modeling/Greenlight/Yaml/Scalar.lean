import Greenlight.Json.Reader
import Greenlight.Yaml.Cursor

/-! # Written forms of YAML scalars

Plain, quoted and block scalars, read from the place where they start. Each reader gives the text of
the scalar and leaves the cursor behind it. Line ends inside a scalar are folded: a single one is a
space, and of several the first is dropped. -/

namespace Greenlight.Yaml

open Scan

/-! ## Plain scalars -/

/-- Characters that separate entries between brackets and braces. -/
def isFlowMark (c : Char) : Bool := c == ',' || c == '[' || c == ']' || c == '{' || c == '}'

/-- The length of the part of a plain scalar that a text starts with. -/
def plainLength (inFlow : Bool) : List Char → Nat
  | [] => 0
  | c :: rest =>
    let next := rest.headD endMark
    if isBlankOrEnd c || (c == ':' && (isBlankOrEnd next || (inFlow && isFlowMark next))) ||
        (inFlow && (isFlowMark c || c == '?')) then 0
    else plainLength inFlow rest + 1

/-- The part of a plain scalar that comes next. A colon ends it only together with what follows it. -/
def plainPart (inFlow : Bool) : Scan (List Char) := do
  if (← peek) == '#' then return []
  let rest := (← get).rest
  let length := plainLength inFlow rest
  if (← peekAt length) == ':' then
    let _ ← peekAt (length + 1)
  skip length
  return rest.take length

/-- Line ends and the spaces after each, up to a document mark; `none` if one was met. -/
def takeBreaks : Nat → List Char → Scan (Option (List Char))
  | 0, found => return some found
  | fuel + 1, found => do
    let ch ← peek
    if ch == ' ' then
      next
      takeBreaks fuel found
    else if isBreak ch then
      let br ← takeBreak
      if ← atDocumentMark then return none else takeBreaks fuel (found ++ br)
    else return some found

/-- Line ends as they are folded. -/
def fold (first breaks : List Char) : List Char :=
  (if first != ['\n'] then first else if breaks.isEmpty then [' '] else []) ++ breaks

/-- The blanks between two parts of a plain scalar, and whether a line ended among them. -/
def plainSpaces : Scan (List Char × Bool) := do
  let spaces ← span (· == ' ')
  if isBreak (← peek) then
    let first ← takeBreak
    if ← atDocumentMark then return ([], true)
    match ← takeBreaks (← steps) [] with
    | none => return ([], true)
    | some breaks => return (fold first breaks, true)
  else return (spaces, false)

/-- The parts of a plain scalar behind a text, each with the blanks in front of it; also whether a line
ended behind the last one. -/
def plainParts (inFlow : Bool) (indent : Int) : Nat → String → List Char → Bool → Scan (String × Bool)
  | 0, text, _, broken => return (text, broken)
  | fuel + 1, text, spaces, broken => do
    let part ← plainPart inFlow
    if part.isEmpty then return (text, broken)
    let text := text ++ String.ofList (spaces ++ part)
    let (spaces, broken) ← plainSpaces
    if spaces.isEmpty then return (text, broken)
    if (← peek) == '#' || (!inFlow && ((← get).column : Int) < indent) then return (text, broken)
    plainParts inFlow indent fuel text spaces broken

/-- A plain scalar inside a collection at an indentation; also whether a line ended behind it. -/
def takePlain (inFlow : Bool) (indent : Int) : Scan (String × Bool) := do
  plainParts inFlow (indent + 1) (← steps) "" [] false

/-! ## Quoted scalars -/

/-- What a letter after a backslash stands for. -/
def escapeLetter? : Char → Option Char
  | '0' => some (Char.ofNat 0)
  | 'a' => some '\x07'
  | 'b' => some '\x08'
  | 't' | '\t' => some '\t'
  | 'n' => some '\n'
  | 'v' => some '\x0b'
  | 'f' => some '\x0c'
  | 'r' => some '\r'
  | 'e' => some '\x1b'
  | ' ' => some ' '
  | '"' => some '"'
  | '\\' => some '\\'
  | '/' => some '/'
  | 'N' => some '\x85'
  | '_' => some '\xa0'
  | 'L' => some '\u2028'
  | 'P' => some '\u2029'
  | _ => none

/-- The number of digits of an escape by code point. -/
def escapeDigits? : Char → Option Nat
  | 'x' => some 2
  | 'u' => some 4
  | 'U' => some 8
  | _ => none

/-- The character of an escape by code point. A surrogate is none. -/
def escapedCode (code : Nat) : Scan Char :=
  if 0x80000000 ≤ code then throw .beyondCodes
  else if 0x110000 ≤ code then throw .beyondCodePoints
  else if 0xD800 ≤ code ∧ code < 0xE000 then throw .surrogate
  else pure (Char.ofNat code)

/-- The value of some hexadecimal digits from a place on, behind those in front of them. -/
def hexNumber (e : FormError) (start value : Nat) : Nat → Scan Nat
  | 0 => return value
  | digits + 1 => do
    match Json.hexDigit? (← peekAt start) with
    | some d => hexNumber e (start + 1) (16 * value + d) digits
    | none => fail e

/-- A number of some hexadecimal digits. -/
def takeHex (e : FormError) (digits : Nat) : Scan Nat := hexNumber e 0 0 digits

/-- Line ends inside quotes with the blanks around them. -/
def quotedBreaks : Nat → List Char → Scan (List Char)
  | 0, found => return found
  | fuel + 1, found => do
    if ← atDocumentMark then fail .openQuote
    let _ ← span isGap
    if isBreak (← peek) then
      let br ← takeBreak
      quotedBreaks fuel (found ++ br)
    else return found

/-- Blanks and line ends inside quotes. -/
def quotedSpaces : Scan (List Char) := do
  let spaces ← span isGap
  let ch ← peek
  if ch == endMark then fail .openQuote
  if isBreak ch then
    let first ← takeBreak
    return fold first (← quotedBreaks (← steps) [])
  else return spaces

/-- What a backslash and the characters after it stand for; the cursor is behind the backslash. -/
def quotedEscape : Scan (List Char) := do
  let ch ← peek
  match escapeLetter? ch, escapeDigits? ch with
  | some letter, _ =>
    next
    return [letter]
  | none, some digits =>
    next
    let letter ← escapedCode (← takeHex .badEscape digits)
    skip digits
    return [letter]
  | none, none =>
    unless isBreak ch do fail .badEscape
    let _ ← takeBreak
    quotedBreaks (← steps) []

/-- Characters that stand for themselves in every quoted scalar. -/
def isQuotable (c : Char) : Bool := !(isBlankOrEnd c || c == '\\' || c == '"' || c == '\'')

/-- The characters of a quoted scalar up to its closing quote, behind a text. -/
def quotedParts (double : Bool) : Nat → String → Scan String
  | 0, _ => fail .openQuote
  | fuel + 1, text => do
    let text := text ++ String.ofList (← span isQuotable)
    let ch ← peek
    if ch == '\'' && !double then
      if (← peekAt 1) == '\'' then
        skip 2
        quotedParts double fuel (text.push '\'')
      else return text
    else if ch == '"' && double then return text
    else if ch == '\\' && double then
      next
      let more ← quotedEscape
      quotedParts double fuel (text ++ String.ofList more)
    else if isBlankOrEnd ch then
      let more ← quotedSpaces
      quotedParts double fuel (text ++ String.ofList more)
    else
      next
      quotedParts double fuel (text.push ch)

/-- A quoted scalar, from its opening quote on. -/
def takeQuoted : Scan String := do
  let double := (← peek) == '"'
  next
  let text ← quotedParts double (← steps) ""
  next
  return text

/-! ## Block scalars -/

/-- What becomes of the line ends behind a block scalar. -/
inductive Chomping where
  | strip
  | clip
  | keep
deriving DecidableEq, Repr

/-- The chomping that a sign asks for. -/
def chomping? (c : Char) : Option Chomping :=
  if c == '+' then some .keep else if c == '-' then some .strip else none

/-- The sign behind the mark of a block scalar, if one comes next. -/
def takeChomping? : Scan (Option Chomping) := do
  match chomping? (← peek) with
  | some chomping =>
    next
    return some chomping
  | none => return none

/-- The digit behind the mark of a block scalar, if one comes next. -/
def takeIncrement? : Scan (Option Nat) := do
  let ch ← peek
  if ch == '0' then fail .indentation
  if ch.isDigit then
    next
    return some (ch.toNat - 48)
  else return none

/-- The sign and the digit behind the mark of a block scalar, in either order. -/
def blockIndicators : Scan (Chomping × Option Nat) := do
  let found ← match ← takeChomping? with
    | some chomping => pure (chomping, ← takeIncrement?)
    | none =>
      match ← takeIncrement? with
      | some n => pure ((← takeChomping?).getD .clip, some n)
      | none => pure (.clip, none)
  unless isSpaceOrEnd (← peek) do fail .indentation
  return found

/-- The line ends in front of a block scalar, and the widest indentation among them. -/
def blockIndentation : Nat → List Char → Nat → Scan (List Char × Nat)
  | 0, found, widest => return (found, widest)
  | fuel + 1, found, widest => do
    let ch ← peek
    if ch == ' ' then
      next
      blockIndentation fuel found (Nat.max widest (← get).column)
    else if isBreak ch then
      let br ← takeBreak
      blockIndentation fuel (found ++ br) widest
    else return (found, widest)

/-- Passes over spaces, up to a column. -/
def skipToColumn (column : Nat) : Nat → Scan Unit
  | 0 => return
  | fuel + 1 => do
    if (← get).column < column then
      if (← peek) == ' ' then
        next
        skipToColumn column fuel

/-- The line ends between two lines of a block scalar. -/
def blockBreaks (column : Nat) : Nat → List Char → Scan (List Char)
  | 0, found => return found
  | fuel + 1, found => do
    skipToColumn column column
    if isBreak (← peek) then
      let br ← takeBreak
      blockBreaks column fuel (found ++ br)
    else return found

/-- Another line of a block scalar comes next. -/
def atBlockLine (column : Nat) : Scan Bool := do
  if (← get).column = column then return (← peek) != endMark else return false

/-- The lines of a block scalar behind a text and the empty lines after it, with the line end and the empty
lines behind the last one. -/
def blockLines (folded : Bool) (column : Nat) :
    Nat → String → List Char → List Char → Scan (String × List Char × List Char)
  | 0, text, br, breaks => return (text, br, breaks)
  | fuel + 1, text, br, breaks => do
    unless ← atBlockLine column do return (text, br, breaks)
    let startsWithText := !isGap (← peek)
    let line ← span (!isBreakOrEnd ·)
    let text := text ++ String.ofList (breaks ++ line)
    let br ← takeBreak
    let breaks ← blockBreaks column (← steps) []
    unless ← atBlockLine column do return (text, br, breaks)
    let joint :=
      if folded && br == ['\n'] && startsWithText && !isGap (← peek) then
        if breaks.isEmpty then [' '] else []
      else br
    blockLines folded column fuel (text ++ String.ofList joint) br breaks

/-- A block scalar, from its mark on, inside a collection at an indentation. -/
def takeBlock (indent : Int) : Scan String := do
  let folded := (← peek) == '>'
  next
  let (chomping, increment) ← blockIndicators
  skipRestOfLine .indentation
  let least := if indent < 0 then 1 else (indent + 1).toNat
  let (breaks, column) ← match increment with
    | some n =>
      let column := least + n - 1
      pure (← blockBreaks column (← steps) [], column)
    | none => do
      let (breaks, widest) ← blockIndentation (← steps) [] 0
      pure (breaks, Nat.max least widest)
  let (text, br, breaks) ← blockLines folded column (← steps) "" [] breaks
  let ending :=
    match chomping with
    | .strip => []
    | .clip => br
    | .keep => br ++ breaks
  return text ++ String.ofList ending

end Greenlight.Yaml
