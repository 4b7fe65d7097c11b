import Greenlight.Text.Utf8
import Greenlight.Yaml.Scalar
import Greenlight.Yaml.Token

/-! # From text to tokens

A lexer reads tokens when they are asked for. It keeps the indentation of the open block collections, the
depth of brackets and braces, and the places where a key may have begun: that an entry is a key shows only
at the colon behind it, and the key token is then put in front of it. A token that may turn out to be a
key is therefore not handed out before the question is settled. -/

namespace Greenlight.Yaml

/-- A token that may turn out to be a key. -/
structure PossibleKey where
  /-- The number of tokens in front of it. -/
  position : Nat
  /-- A colon has to follow. -/
  isRequired : Bool
  index : Nat
  line : Nat
  column : Nat

/-- A lexer at a place of a text. -/
structure Lexer where
  cursor : Cursor
  /-- Tokens that are read and not handed out. -/
  waiting : List Token
  /-- The number of tokens handed out. -/
  taken : Nat
  /-- The end of the text is among the tokens. -/
  isDone : Bool
  depth : Nat
  indent : Int
  indents : List Int
  keyAllowed : Bool
  /-- At most one possible key for each depth of brackets. -/
  keys : List (Nat × PossibleKey)

namespace Lexer

/-- A step of a lexer. -/
abbrev Step := StateT Lexer (Except ReadError)

/-- A lexer at the start of a text. -/
def ofSource (s : Source) : Lexer where
  cursor := .ofSource s
  waiting := []
  taken := 0
  isDone := false
  depth := 0
  indent := -1
  indents := []
  keyAllowed := true
  keys := []

/-- Fails with a defect of form. -/
def fail {α : Type} (e : FormError) : Step α := throw (.form e)

/-- Reads characters. -/
def scan {α : Type} (s : Scan α) : Step α := do
  let l ← get
  let (a, cursor) ← s.run l.cursor
  set { l with cursor }
  return a

/-- Adds a token. -/
def push (t : Token) : Step Unit := modify fun l => { l with waiting := l.waiting ++ [t] }

/-- Puts a token at a place among those that wait. -/
def insertAt (position : Nat) (t : Token) : Step Unit :=
  modify fun l => { l with waiting := l.waiting.insertIdx (position - l.taken) t }

/-- Sets whether a key may come next. -/
def allowKey (allowed : Bool) : Step Unit := modify fun l => { l with keyAllowed := allowed }

/-- Adds a token behind its characters. -/
def pushAfter (n : Nat) (t : Token) : Step Unit := do
  scan (Scan.skip n)
  push t

/-- The next token is between brackets or braces. -/
def inFlow : Step Bool := return (← get).depth != 0

/-! ## Indentation and possible keys -/

/-- Closes the block collections that are indented more than a column. -/
def unwindFrom (column : Int) : List Int → Step Unit
  | [] => return
  | outer :: rest => do
    if (← get).indent > column then
      modify fun l => { l with indent := outer, indents := rest }
      push .blockEnd
      unwindFrom column rest

/-- Closes the block collections that end at a column. Brackets and braces keep all of them open. -/
def unwind (column : Int) : Step Unit := do
  unless ← inFlow do unwindFrom column (← get).indents

/-- Opens a block collection at a column if it is indented more than the current one. -/
def indentTo (column : Nat) : Step Bool := do
  let l ← get
  if l.indent < column then
    set { l with indent := (column : Int), indents := l.indent :: l.indents }
    return true
  else return false

/-- Gives up the possible keys that are too far back. -/
def dropStaleKeys : Step Unit := do
  let l ← get
  let isStale (k : PossibleKey) : Bool := k.line != l.cursor.line || l.cursor.index - k.index > 1024
  if l.keys.any fun (_, k) => isStale k && k.isRequired then fail .keyWithoutValue
  set { l with keys := l.keys.filter fun (_, k) => !isStale k }

/-- Gives up the possible key of the current depth. -/
def dropKey : Step Unit := do
  let l ← get
  if l.keys.any fun (depth, k) => depth == l.depth && k.isRequired then fail .keyWithoutValue
  set { l with keys := l.keys.filter (·.1 != l.depth) }

/-- Remembers the next token as a possible key. -/
def rememberKey : Step Unit := do
  if (← get).keyAllowed then
    dropKey
    modify fun l =>
      let c := l.cursor
      let isRequired := l.depth == 0 && l.indent == (c.column : Int)
      let position := l.taken + l.waiting.length
      { l with keys := (l.depth, ⟨position, isRequired, c.index, c.line, c.column⟩) :: l.keys }

/-! ## Directives and properties -/

open Scan

/-- A number in a version directive. -/
def versionNumber : Scan Nat := do
  let digits ← span Char.isDigit
  if digits.isEmpty then Scan.fail .directive
  if maxIntDigits < digits.length then throw (.number (.tooManyDigits digits.length))
  return Decimal.digitsValue digits

/-- Characters of a tag in full, except the percent sign. -/
def isTagChar (c : Char) : Bool :=
  c.isAlphanum || "-;/?:@&=+$,_.!~*'()[]".toList.contains c

/-- Bytes written with percent signs. -/
def percentBytes (e : FormError) : Nat → Scan (List UInt8)
  | 0 => return []
  | fuel + 1 => do
    if (← peek) == '%' then
      next
      let byte ← takeHex e 2
      skip 2
      return byte.toUInt8 :: (← percentBytes e fuel)
    else return []

/-- The characters of a tag behind a text, with escapes read as the bytes they stand for. -/
def takeTagText (e : FormError) : Nat → String → Scan String
  | 0, _ => Scan.fail e
  | fuel + 1, text => do
    let text := text ++ String.ofList (← span isTagChar)
    if (← peek) == '%' then
      match Text.decode (← percentBytes e (← steps)) with
      | .ok cs => takeTagText e fuel (text ++ String.ofList cs)
      | .error _ => Scan.fail e
    else if text.isEmpty then Scan.fail e
    else return text

/-- A tag in full, or the end of one. -/
def takeTagEnd (e : FormError) : Scan String := do takeTagText e (← steps) ""

/-- A handle: an exclamation mark, or a word between two of them. -/
def takeHandle (e : FormError) : Scan String := do
  if (← peek) != '!' then Scan.fail e
  if (← peekAt 1) == ' ' then
    next
    return "!"
  else
    next
    let word ← span isWordChar
    if (← peek) != '!' then Scan.fail e
    next
    return String.ofList ('!' :: word ++ ['!'])

/-- The numbers of a version directive. -/
def takeVersion : Scan Token := do
  skipSpaces
  let major ← versionNumber
  if (← peek) != '.' then Scan.fail .directive
  next
  let minor ← versionNumber
  return .version major minor

/-- The handle of a directive and what it stands for. -/
def takeHandleDirective : Scan Token := do
  skipSpaces
  let handle ← takeHandle .directive
  if (← peek) != ' ' then Scan.fail .directive
  skipSpaces
  return .handle handle (← takeTagEnd .directive)

/-- A directive, from its percent sign on. -/
def takeDirective : Scan Token := do
  next
  let name ← span isWordChar
  if name.isEmpty || !isSpaceOrEnd (← peek) then Scan.fail .directive
  let token ←
    if name = "YAML".toList then takeVersion
    else if name = "TAG".toList then takeHandleDirective
    else do
      let _ ← span (!isBreakOrEnd ·)
      pure .otherDirective
  unless isSpaceOrEnd (← peek) do Scan.fail .directive
  skipRestOfLine .directive
  return token

/-- The name behind an ampersand or an asterisk. -/
def takeName : Scan String := do
  next
  let name ← span isWordChar
  let ch ← peek
  if name.isEmpty || !(isBlankOrEnd ch || "?:,]%@`\x7d".toList.contains ch) then Scan.fail .anchor
  return String.ofList name

/-- A second exclamation mark comes before the next space. -/
def hasHandle : Scan Bool := do
  let before := ((← get).rest.drop 1).takeWhile fun c => !isSpaceOrEnd c && c != '!'
  return (← peekAt (before.length + 1)) == '!'

/-- A tag, from its exclamation mark on. -/
def takeTag : Scan Token := do
  let ch ← peekAt 1
  let token ←
    if ch == '<' then do
      skip 2
      let suffix ← takeTagEnd .tag
      if (← peek) != '>' then Scan.fail .tag
      next
      pure (Token.tag none suffix)
    else if isBlankOrEnd ch then do
      next
      pure (Token.tag none "!")
    else do
      let handle ← if ← hasHandle then takeHandle .tag else do
        next
        pure "!"
      pure (Token.tag (some handle) (← takeTagEnd .tag))
  unless isSpaceOrEnd (← peek) do Scan.fail .tag
  return token

/-! ## Tokens -/

/-- Ends what is open before a directive or a document mark. -/
def closeDocument : Step Unit := do
  unwind (-1)
  dropKey
  allowKey false

/-- The end of the text. -/
def textEnd : Step Unit := do
  closeDocument
  modify fun l => { l with isDone := true, keys := [] }
  push .streamEnd

/-- A directive. -/
def directive : Step Unit := do
  closeDocument
  push (← scan takeDirective)

/-- A mark between documents. -/
def documentMark (t : Token) : Step Unit := do
  closeDocument
  pushAfter 3 t

/-- An opening bracket or brace. -/
def openFlow (t : Token) : Step Unit := do
  rememberKey
  modify fun l => { l with depth := l.depth + 1 }
  allowKey true
  pushAfter 1 t

/-- A closing bracket or brace. -/
def closeFlow (t : Token) : Step Unit := do
  dropKey
  if (← get).depth = 0 then fail .unexpectedToken
  modify fun l => { l with depth := l.depth - 1 }
  allowKey false
  pushAfter 1 t

/-- A comma. -/
def flowEntry : Step Unit := do
  allowKey true
  dropKey
  pushAfter 1 .flowEntry

/-- Opens a block collection at the cursor, if an entry may stand there. -/
def openBlock (t : Token) : Step Unit := do
  unless ← inFlow do
    unless (← get).keyAllowed do fail .keyNotAllowed
    if ← indentTo (← get).cursor.column then push t

/-- A hyphen in front of an entry. -/
def blockEntry : Step Unit := do
  openBlock .blockSequenceStart
  allowKey true
  dropKey
  pushAfter 1 .blockEntry

/-- A question mark in front of a key. -/
def explicitKey : Step Unit := do
  openBlock .blockMappingStart
  allowKey (!(← inFlow))
  dropKey
  pushAfter 1 .key

/-- A colon in front of a value. A possible key becomes one. -/
def valueMark : Step Unit := do
  let l ← get
  match l.keys.find? (·.1 == l.depth) with
  | some (_, k) =>
    set { l with keys := l.keys.filter (·.1 != l.depth) }
    insertAt k.position .key
    unless ← inFlow do
      if ← indentTo k.column then insertAt k.position .blockMappingStart
    allowKey false
  | none =>
    openBlock .blockMappingStart
    allowKey (!(← inFlow))
    dropKey
  pushAfter 1 .value

/-- A token that may be the start of a key. -/
def keyToken (s : Scan Token) : Step Unit := do
  rememberKey
  allowKey false
  push (← scan s)

/-- A block scalar. -/
def blockScalar : Step Unit := do
  allowKey true
  dropKey
  let text ← scan (takeBlock (← get).indent)
  push (.scalar text false)

/-- A plain scalar. -/
def plainScalar : Step Unit := do
  rememberKey
  let (text, broken) ← scan (takePlain (← inFlow) (← get).indent)
  allowKey broken
  push (.scalar text true)

/-- A character that no plain scalar starts with, unless it is one of three with text behind it. -/
def isIndicator (c : Char) : Bool :=
  isBlankOrEnd c || "-?:,[]#&*!|>'\"%@`\x7b\x7d".toList.contains c

/-- A plain scalar may start here. -/
def startsPlain (inFlow : Bool) : Scan Bool := do
  let ch ← peek
  if isIndicator ch then
    let blankNext := isBlankOrEnd (← peekAt 1)
    return !blankNext && (ch == '-' || (!inFlow && (ch == '?' || ch == ':')))
  else return true

/-- Passes over spaces, comments and line ends. Outside of brackets a key may begin on a new line. -/
def skipToToken : Nat → Step Unit
  | 0 => return
  | fuel + 1 => do
    scan do
      skipSpaces
      skipComment
    let br ← scan takeBreak
    unless br.isEmpty do
      unless ← inFlow do allowKey true
      skipToToken fuel

/-- The mark of a document that comes next, if one does. -/
def documentMark? : Scan (Option Token) := do
  let ch ← peek
  if (ch == '-' || ch == '.') && (← get).column = 0 then
    if ← atDocumentMark then return some (if ch == '-' then .documentStart else .documentEnd)
  return none

/-- Reads one token, with those that its place implies. -/
def read : Step Unit := do
  if (← get).cursor.index = 0 then
    if (← scan peek) == '\uFEFF' then scan next
  skipToToken (← scan steps)
  dropStaleKeys
  unwind (← get).cursor.column
  let ch ← scan peek
  let flow ← inFlow
  /- Where a mark counts only in front of a blank, brackets and braces make it count everywhere. -/
  let isMark (everywhere : Bool) : Step Bool :=
    if everywhere then return true else return isBlankOrEnd (← scan (peekAt 1))
  if ch == endMark then textEnd
  else if ch == '%' && (← get).cursor.column = 0 then directive
  else if let some t ← scan documentMark? then documentMark t
  else if ch == '[' then openFlow .flowSequenceStart
  else if ch == '{' then openFlow .flowMappingStart
  else if ch == ']' then closeFlow .flowSequenceEnd
  else if ch == '}' then closeFlow .flowMappingEnd
  else if ch == ',' then flowEntry
  else if ← (if ch == '-' then isMark false else return false) then blockEntry
  else if ← (if ch == '?' then isMark flow else return false) then explicitKey
  else if ← (if ch == ':' then isMark flow else return false) then valueMark
  else if ch == '*' then keyToken (.alias <$> takeName)
  else if ch == '&' then keyToken (.anchor <$> takeName)
  else if ch == '!' then keyToken takeTag
  else if (ch == '|' || ch == '>') && !flow then blockScalar
  else if ch == '\'' || ch == '"' then keyToken ((.scalar · false) <$> takeQuoted)
  else if ← scan (startsPlain flow) then plainScalar
  else fail .strayCharacter

/-- No token waits, or the one in front may still turn out to be a key. -/
def isUnsettled : Step Bool := do
  if (← get).isDone then return false
  if (← get).waiting.isEmpty then return true
  dropStaleKeys
  let l ← get
  return l.keys.any fun (_, k) => k.position == l.taken

/-- Reads tokens until the one in front is settled. -/
def settle : Nat → Step Unit
  | 0 => return
  | fuel + 1 => do
    if ← isUnsettled then
      read
      settle fuel

/-- The next token. Behind the last one the text is at its end. -/
def peek : Step Token := do
  settle (← scan steps)
  return (← get).waiting.headD .streamEnd

/-- Hands out the next token. -/
def skip : Step Unit := modify fun l => { l with waiting := l.waiting.tail, taken := l.taken + 1 }

end Lexer

end Greenlight.Yaml
