import Greenlight.Host.Script
import Greenlight.Text.Pieces

/-! # Reading scripts

A script is read line by line, so that what stands before a malformed line can run. Reading keeps the
rest of the text and the number of the line it starts on. -/

namespace Greenlight.Host

/-- The rest of a script and the number of its first line. -/
structure Source where
  rest : List Char
  line : Nat

/-- Why a script cannot be read. -/
inductive SyntaxFault where
  /-- A token stands where another one is expected. -/
  | unexpected (token : String) (expected : Option String)
  | openQuote
  | openBackquote
  | openBrace
  | openArithmetic
  | badSubstitution
  | tooDeep
deriving DecidableEq, Repr

/-- The cause in words. -/
def SyntaxFault.message : SyntaxFault → String
  | .unexpected token none => s!"Syntax error: {token} unexpected"
  | .unexpected token (some word) =>
    s!"Syntax error: {token} unexpected (expecting " ++ "\"" ++ word ++ "\")"
  | .openQuote => "Syntax error: Unterminated quoted string"
  | .openBackquote => "Syntax error: EOF in backquote substitution"
  | .openBrace => "Syntax error: Missing '\x7d'"
  | .openArithmetic => "Syntax error: Missing '))'"
  | .badSubstitution => "Bad substitution"
  | .tooDeep => "Syntax error: nested too deeply"

/-- A reader, which gives a fault with its line or a value and moves on. -/
abbrev Reading := StateT Source (Except (SyntaxFault × Nat))

namespace Reading

/-- Stops with a fault on the current line. -/
def fail {α : Type} (fault : SyntaxFault) : Reading α := do
  let s ← get
  throw (fault, s.line)

/-- The next character. -/
def peek : Reading (Option Char) := return (← get).rest.head?

/-- The text starts with some characters. -/
def startsWith (s : String) : Reading Bool := return s.toList.isPrefixOf (← get).rest

/-- Passes over some characters. -/
def skip (n : Nat) : Reading Unit :=
  modify fun s => ⟨s.rest.drop n, s.line + (s.rest.take n).count '\n'⟩

/-- Passes over the characters that fulfil a condition, and gives them. -/
def span (p : Char → Bool) : Reading String := do
  let cs := (← get).rest.takeWhile p
  skip cs.length
  return String.ofList cs

end Reading

open Reading

/-! ## Words -/

/-- Characters that end a word. -/
def isMeta (c : Char) : Bool := " \t\n;&|<>()".toList.contains c

/-- Characters that may begin a name. -/
def isNameStart (c : Char) : Bool := c.isAlpha || c == '_'

/-- Characters of a name. -/
def isNameChar (c : Char) : Bool := c.isAlphanum || c == '_'

/-- A text is a name. -/
def isName (s : String) : Bool :=
  match s.toList with
  | c :: rest => isNameStart c && rest.all isNameChar
  | [] => false

/-- Parameters named by a sign. -/
def isSpecial (c : Char) : Bool := "@*#?-$!".toList.contains c

/-- The characters up to a parenthesis that closes what is open, with quotes passed over, and what
follows it. -/
def closeParen (depth : Nat) (quote : Option Char) : List Char → Option (List Char × List Char)
  | [] => none
  | '\\' :: c :: rest =>
    if quote = some '\'' then
      if c = '\'' then (closeParen depth none rest).map fun (cs, r) => ('\\' :: c :: cs, r)
      else (closeParen depth quote rest).map fun (cs, r) => ('\\' :: c :: cs, r)
    else (closeParen depth quote rest).map fun (cs, r) => ('\\' :: c :: cs, r)
  | c :: rest =>
    let go (depth : Nat) (quote : Option Char) :=
      (closeParen depth quote rest).map fun (cs, r) => (c :: cs, r)
    match quote with
    | some q => go depth (if c = q then none else quote)
    | none =>
      if c = '\'' ∨ c = '"' then go depth (some c)
      else if c = '(' then go (depth + 1) none
      else if c = ')' then
        match depth with
        | 0 => some ([], rest)
        | depth + 1 => go depth none
      else go depth none

/-- The characters up to the next backquote, with escapes resolved, and what follows it. -/
def closeBackquote : List Char → Option (List Char × List Char)
  | [] => none
  | '`' :: rest => some ([], rest)
  | '\\' :: c :: rest =>
    (closeBackquote rest).map fun (cs, r) =>
      (if c = '`' ∨ c = '\\' ∨ c = '$' then (c :: cs, r) else ('\\' :: c :: cs, r))
  | c :: rest => (closeBackquote rest).map fun (cs, r) => (c :: cs, r)

/-- Where pieces of a word are read. -/
inductive Place where
  | word
  | double
  /-- Inside braces, which may be inside double quotes. -/
  | braces (inQuotes : Bool)
  /-- A text in which only dollar signs, backquotes and backslashes mean something. -/
  | document
deriving DecidableEq, Repr

/-- Characters at this place are quoted. -/
def Place.isQuoted : Place → Bool
  | .word => false
  | .braces inQuotes => inQuotes
  | _ => true

/-- Bare or quoted characters. -/
def Place.chars (place : Place) (s : String) : Piece :=
  if place.isQuoted then .quoted s else .bare s

/-- Characters that end a row of plain ones. -/
def Place.isPlain (place : Place) (c : Char) : Bool :=
  !(c == '$' || c == '`' || c == '\\') &&
    match place with
    | .word => !(isMeta c || c == '\'' || c == '"')
    | .double => c != '"'
    | .braces inQuotes => c != '}' && c != '"' && (inQuotes || c != '\'')
    | .document => true

/-- The use of a parameter from the signs behind its name. -/
def readUse : Reading ParamUse := do
  let orEmpty ← startsWith ":"
  if orEmpty then skip 1
  let c ← peek
  skip 1
  match c with
  | some '-' => return .default orEmpty
  | some '=' => return .assign orEmpty
  | some '+' => return .alternative orEmpty
  | some '?' => return .demand orEmpty
  | some '%' =>
    if ← startsWith "%" then skip 1; return .trim false true else return .trim false false
  | some '#' =>
    if ← startsWith "#" then skip 1; return .trim true true else return .trim true false
  | none => fail .openBrace
  | _ => fail .badSubstitution

/-- The name of a parameter. -/
def readParamName : Reading String := do
  match ← peek with
  | some c =>
    if isNameStart c then span isNameChar
    else if c.isDigit then span Char.isDigit
    else if isSpecial c then skip 1; return c.toString
    else fail .badSubstitution
  | none => fail .badSubstitution

mutual

/-- The pieces at a place, up to its end. -/
def readPieces (place : Place) : Nat → Reading Word
  | 0 => fail .tooDeep
  | fuel + 1 => do
    match ← peek with
    | none =>
      match place with
      | .double => fail .openQuote
      | .braces _ => fail .openBrace
      | _ => return []
    | some c =>
      if place = .word ∧ isMeta c then return []
      else if place = .double ∧ c = '"' then skip 1; return []
      else if c = '}' ∧ (place = .braces true ∨ place = .braces false) then skip 1; return []
      else
        let first ← readPiece place c fuel
        let rest ← readPieces place fuel
        return first ++ rest

/-- The pieces that begin with a character. -/
def readPiece (place : Place) (c : Char) : Nat → Reading Word
  | 0 => fail .tooDeep
  | fuel + 1 => do
    if c = '\\' then
      skip 1
      match ← peek with
      | none => return [.quoted "\\"]
      | some '\n' => skip 1; return []
      | some e =>
        skip 1
        if place.isQuoted && !(e == '$' || e == '`' || e == '\\' || (e == '"' && place ≠ .document)
            || (e == '}' && place ≠ .double && place ≠ .document)) then
          return [.quoted (String.ofList ['\\', e])]
        else return [.quoted e.toString]
    else if c = '$' then
      skip 1
      return [← readDollar place.isQuoted fuel]
    else if c = '`' then
      skip 1
      match closeBackquote (← get).rest with
      | none => fail .openBackquote
      | some (cs, rest) =>
        modify fun s => { s with rest := rest }
        return [.output place.isQuoted (String.ofList cs)]
    else if c = '"' ∧ place ≠ .document then
      skip 1
      match ← readPieces .double fuel with
      | [.param true "@" .plain []] => return [.param true "@" .plain []]
      | inner => return .quoted "" :: inner
    else if c = '\'' ∧ !place.isQuoted then
      skip 1
      let s ← span (· != '\'')
      if (← peek).isNone then fail .openQuote
      skip 1
      return [.quoted s]
    else
      let s ← span place.isPlain
      return [place.chars s]

/-- What a dollar sign begins. -/
def readDollar (inQuotes : Bool) : Nat → Reading Piece
  | 0 => fail .tooDeep
  | fuel + 1 => do
    if ← startsWith "((" then
      skip 2
      match closeParen 0 none (← get).rest with
      | some (cs, ')' :: rest) =>
        let outer ← get
        set { outer with rest := cs }
        let inner ← readPieces .document fuel
        set { outer with rest := rest }
        return .arithmetic inQuotes inner
      | _ => fail .openArithmetic
    else if ← startsWith "(" then
      skip 1
      match closeParen 0 none (← get).rest with
      | some (cs, rest) =>
        modify fun s => { s with rest := rest }
        return .output inQuotes (String.ofList cs)
      | none => fail (.unexpected "end of file" (some ")"))
    else if ← startsWith "\x7b" then
      skip 1
      if (← startsWith "#") && !(← startsWith "#\x7d") then
        skip 1
        let name ← readParamName
        if ← startsWith "\x7d" then skip 1; return .param inQuotes name .length []
        else fail .badSubstitution
      else
        let name ← readParamName
        if ← startsWith "\x7d" then skip 1; return .param inQuotes name .plain []
        else
          let use ← readUse
          let word ← readPieces (.braces inQuotes) fuel
          return .param inQuotes name use word
    else
      match ← peek with
      | some c =>
        if isNameStart c then return .param inQuotes (← span isNameChar) .plain []
        else if c.isDigit || isSpecial c then
          skip 1
          return .param inQuotes c.toString .plain []
        else return .quoted "$"
      | none => return .quoted "$"

end

/-- The steps that are enough for a text. -/
def stepsFor (s : Source) : Nat := 4 * s.rest.length + 8

/-- One word; it is empty if none comes next. -/
def readWord : Reading Word := do readPieces .word (stepsFor (← get))

/-! ## Tokens -/

/-- Passes over spaces, tabs, joined line ends and comments. -/
def skipBlanksFrom : Nat → Reading Unit
  | 0 => return
  | fuel + 1 => do
    match ← peek with
    | some ' ' | some '\t' => skip 1; skipBlanksFrom fuel
    | some '#' => let _ ← span (· != '\n'); return
    | some '\\' =>
      if ← startsWith "\\\n" then skip 2; skipBlanksFrom fuel else return
    | _ => return

/-- Passes over spaces, tabs, joined line ends and comments. -/
def skipBlanks : Reading Unit := do skipBlanksFrom (stepsFor (← get))

/-- Passes over blanks and line ends. -/
def skipLinesFrom : Nat → Reading Unit
  | 0 => return
  | fuel + 1 => do
    skipBlanks
    if ← startsWith "\n" then skip 1; skipLinesFrom fuel else return

/-- Passes over blanks and line ends. -/
def skipLines : Reading Unit := do skipLinesFrom (stepsFor (← get))

/-- Words with a meaning of their own at the start of a command. -/
def keywords : List String :=
  ["if", "then", "elif", "else", "fi", "while", "until", "for", "do", "done", "case", "esac", "in",
    "\x7b", "\x7d", "!"]

/-- The keyword that comes next. -/
def peekKeyword : Reading (Option String) := do
  let start ← get
  skipBlanks
  let word ← readWord
  set start
  return (bareText? word).filter keywords.contains

/-- The token that comes next, as a fault names it. -/
def peekToken : Reading String := do
  skipBlanks
  let start ← get
  match ← peek with
  | none => return "end of file"
  | some '\n' => return "newline"
  | some c =>
    let token (s : String) : String := "\"" ++ s ++ "\""
    if isMeta c then
      let two := String.ofList (start.rest.take 2)
      return token (if ["&&", "||", ";;", ">>", "<<"].contains two then two else c.toString)
    else
      match ← peekKeyword with
      | some word => return token word
      | none => return "word"

/-- Stops because of the next token. -/
def failHere {α : Type} (expected : Option String) : Reading α := do
  fail (.unexpected (← peekToken) expected)

/-- Passes over a keyword that must come next, perhaps on another line. -/
def expectKeyword (word : String) : Reading Unit := do
  skipLines
  if (← peekKeyword) = some word then
    let _ ← readWord
    return
  else failHere (some word)

/-- Passes over signs that must come next. -/
def expectSign (sign : String) : Reading Unit := do
  skipLines
  if ← startsWith sign then skip sign.length else failHere (some sign)

/-! ## Redirections -/

/-- The lines of a document up to its last line, and what follows it. -/
def takeDocument (strip : Bool) (ending : String) : List String → List String × List String
  | [] => ([], [])
  | line :: rest =>
    let line := if strip then String.ofList (line.toList.dropWhile (· == '\t')) else line
    if line = ending then ([], rest)
    else
      let (lines, rest) := takeDocument strip ending rest
      (line :: lines, rest)

/-- The characters of a word with its quotes taken off. -/
def plainText (word : Word) : String :=
  String.join (word.map fun
    | .bare s | .quoted s => s
    | _ => "")

/-- A word has quotes. -/
def hasQuotes (word : Word) : Bool :=
  word.any fun
    | .quoted _ => true
    | _ => false

/-- The text that begins behind the current line; it is taken out of the script. -/
def readDocument (strip : Bool) (word : Word) : Reading Word := do
  let s ← get
  let here := s.rest.takeWhile (· != '\n')
  let behind := (s.rest.dropWhile (· != '\n')).drop 1
  let all := Text.pieces '\n' (String.ofList behind)
  let all := if all.getLast? = some "" then all.dropLast else all
  let (lines, rest) := takeDocument strip (plainText word) all
  let body := String.join (lines.map (· ++ "\n"))
  let outer : Source := { s with rest := here ++ '\n' :: (Text.join "\n" rest).toList }
  if hasQuotes word then
    set outer
    return [.quoted body]
  else
    set { s with rest := body.toList }
    let inner ← readPieces .document (4 * body.length + 8)
    set outer
    return .quoted "" :: inner

/-- A redirection, if one comes next. -/
def readRedir? : Reading (Option Redir) := do
  let start ← get
  let digits ← span Char.isDigit
  let channel (default : Nat) : Nat := if digits.isEmpty then default else digits.toNat?.getD default
  let finish (n : Nat) (default : Nat) (kind : RedirKind) : Reading (Option Redir) := do
    skip n
    skipBlanks
    let word ← readWord
    if word.isEmpty then failHere none
    return some (.mk (channel default) kind word)
  if ← startsWith "<<" then
    skip 2
    let strip ← startsWith "-"
    if strip then skip 1
    skipBlanks
    let word ← readWord
    if word.isEmpty then failHere none
    return some (.mk (channel 0) .document (← readDocument strip word))
  else if ← startsWith ">>" then finish 2 1 .append
  else if ← startsWith ">&" then finish 2 1 .duplicate
  else if ← startsWith ">|" then finish 2 1 .replace
  else if ← startsWith ">" then finish 1 1 .write
  else if ← startsWith "<>" then finish 2 0 .update
  else if ← startsWith "<&" then finish 2 0 .duplicate
  else if ← startsWith "<" then finish 1 0 .read
  else
    set start
    return none

/-- All redirections that come next. -/
def readRedirs : Nat → Reading (List Redir)
  | 0 => return []
  | fuel + 1 => do
    skipBlanks
    match ← readRedir? with
    | some redir => return redir :: (← readRedirs fuel)
    | none => return []

/-! ## Commands -/

/-- The name and value of an assignment. -/
def assignment? (word : Word) : Option (String × Word) :=
  match word with
  | .bare s :: rest =>
    match Text.cutAtFirst '=' s.toList with
    | some (name, value) =>
      if isName (String.ofList name) then
        some (String.ofList name,
          if value.isEmpty then rest else .bare (String.ofList value) :: rest)
      else none
    | none => none
  | _ => none

/-- A simple command, after what was read of it already. -/
def readSimpleFrom (line : Nat) (assignments : List (String × Word)) (words : List Word)
    (redirs : List Redir) : Nat → Reading Command
  | 0 => fail .tooDeep
  | fuel + 1 => do
    skipBlanks
    match ← readRedir? with
    | some redir => readSimpleFrom line assignments words (redirs ++ [redir]) fuel
    | none =>
      let word ← readWord
      if word.isEmpty then
        if words.length = 1 && (← startsWith "(") then
          skip 1
          skipBlanks
          failHere (some ")")
        else return .simple line assignments words redirs
      else
        match (if words.isEmpty then assignment? word else none) with
        | some entry => readSimpleFrom line (assignments ++ [entry]) words redirs fuel
        | none => readSimpleFrom line assignments (words ++ [word]) redirs fuel

/-- A simple command. -/
def readSimple : Reading Command := do
  let s ← get
  let command ← readSimpleFrom s.line [] [] [] (stepsFor s)
  match command with
  | .simple _ [] [] [] => failHere none
  | command => return command

/-- The name of a function that is defined next. -/
def readDefinition? : Reading (Option String) := do
  let start ← get
  let name ← span isNameChar
  skipBlanks
  if isName name && (← startsWith "(") then
    skip 1
    skipBlanks
    if ← startsWith ")" then
      skip 1
      return some name
  set start
  return none

/-- The words of a loop up to the end of the line. -/
def readWords : Nat → Reading (List Word)
  | 0 => return []
  | fuel + 1 => do
    skipBlanks
    let word ← readWord
    if word.isEmpty then return [] else return word :: (← readWords fuel)

/-- Patterns with bars between them, up to the closing parenthesis. -/
def readPatterns : Nat → Reading (List Word)
  | 0 => fail .tooDeep
  | fuel + 1 => do
    skipBlanks
    let word ← readWord
    if word.isEmpty then failHere none
    skipBlanks
    if ← startsWith "|" then
      skip 1
      return word :: (← readPatterns fuel)
    else if ← startsWith ")" then
      skip 1
      return [word]
    else failHere (some ")")

mutual

/-- A list of commands up to a keyword, a parenthesis or the end; on one line only if `oneLine`. -/
def readList (oneLine : Bool) : Nat → Reading Command
  | 0 => fail .tooDeep
  | fuel + 1 => do
    if oneLine then skipBlanks else skipLines
    let ended := (← peek).isNone || (← startsWith ")") || (← startsWith ";;") || (← startsWith "\n")
    let stops := ((← peekKeyword).filter fun word =>
      ["then", "elif", "else", "fi", "do", "done", "esac", "\x7d"].contains word).isSome
    if ended || stops then return .sequence []
    else
      let first ← readAndOr fuel
      skipBlanks
      let inBack := (← startsWith "&")
      let first := if inBack then Command.background first else first
      let more ← startsWith ";;"
      if (inBack || (← startsWith ";")) && !more then skip 1
      else if more || (← peek).isNone || (← startsWith ")") then return .sequence [first]
      else if ← startsWith "\n" then
        if oneLine then return .sequence [first] else skip 1
      else failHere none
      match ← readList oneLine fuel with
      | .sequence rest => return .sequence (first :: rest)
      | other => return .sequence [first, other]

/-- Pipelines that depend on each other. -/
def readAndOr : Nat → Reading Command
  | 0 => fail .tooDeep
  | fuel + 1 => do
    let first ← readPipeline fuel
    readAndOrFrom first fuel

/-- Pipelines that depend on the one before. -/
def readAndOrFrom (first : Command) : Nat → Reading Command
  | 0 => fail .tooDeep
  | fuel + 1 => do
    skipBlanks
    if ← startsWith "&&" then
      skip 2
      skipLines
      readAndOrFrom (.both first (← readPipeline fuel)) fuel
    else if ← startsWith "||" then
      skip 2
      skipLines
      readAndOrFrom (.either first (← readPipeline fuel)) fuel
    else return first

/-- A pipeline, perhaps negated. -/
def readPipeline : Nat → Reading Command
  | 0 => fail .tooDeep
  | fuel + 1 => do
    let negated := (← peekKeyword) == some "!"
    if negated then
      skipBlanks
      let _ ← readWord
    let parts ← readParts fuel
    match negated, parts with
    | false, [part] => return part
    | negated, parts => return .pipeline negated parts

/-- Commands with bars between them. -/
def readParts : Nat → Reading (List Command)
  | 0 => fail .tooDeep
  | fuel + 1 => do
    let first ← readCommand fuel
    skipBlanks
    if (← startsWith "|") && !(← startsWith "||") then
      skip 1
      skipLines
      return first :: (← readParts fuel)
    else return [first]

/-- One command. -/
def readCommand : Nat → Reading Command
  | 0 => fail .tooDeep
  | fuel + 1 => do
    skipBlanks
    if ← startsWith "(" then
      skip 1
      let body ← readList false fuel
      expectSign ")"
      return .subshell body (← readRedirs fuel)
    else
      match ← peekKeyword with
      | some "if" =>
        let _ ← readWord
        let body ← readBranch fuel
        wrap body (← readRedirs fuel)
      | some "while" => readLoop false fuel
      | some "until" => readLoop true fuel
      | some "for" => readEach fuel
      | some "case" => readChoose fuel
      | some "\x7b" =>
        let _ ← readWord
        let body ← readList false fuel
        expectKeyword "\x7d"
        return .group body (← readRedirs fuel)
      | some _ => failHere none
      | none =>
        match ← readDefinition? with
        | some name =>
          skipLines
          return .define name (← readCommand fuel)
        | none => readSimple
where
  /-- A command under its redirections. -/
  wrap (body : Command) (redirs : List Redir) : Reading Command :=
    return if redirs.isEmpty then body else .group body redirs

/-- What stands between `if` and `fi`. -/
def readBranch : Nat → Reading Command
  | 0 => fail .tooDeep
  | fuel + 1 => do
    let condition ← readList false fuel
    expectKeyword "then"
    let yes ← readList false fuel
    match ← peekKeyword with
    | some "elif" =>
      skipBlanks
      let _ ← readWord
      return .branch condition yes (← readBranch fuel)
    | some "else" =>
      skipBlanks
      let _ ← readWord
      let no ← readList false fuel
      expectKeyword "fi"
      return .branch condition yes no
    | _ =>
      expectKeyword "fi"
      return .branch condition yes (.sequence [])

/-- A loop with a condition. -/
def readLoop (untilTrue : Bool) : Nat → Reading Command
  | 0 => fail .tooDeep
  | fuel + 1 => do
    let _ ← readWord
    let condition ← readList false fuel
    expectKeyword "do"
    let body ← readList false fuel
    expectKeyword "done"
    return .group (.loop untilTrue condition body) (← readRedirs fuel)

/-- A loop over words. -/
def readEach : Nat → Reading Command
  | 0 => fail .tooDeep
  | fuel + 1 => do
    let _ ← readWord
    skipBlanks
    let name ← span isNameChar
    if !isName name then failHere none
    skipLines
    let words ← if (← peekKeyword) = some "in" then do
        let _ ← readWord
        pure (some (← readWords (stepsFor (← get))))
      else pure none
    skipBlanks
    if (← peek).isNone then failHere none
    if ← startsWith ";" then skip 1
    expectKeyword "do"
    let body ← readList false fuel
    expectKeyword "done"
    return .group (.each name words body) (← readRedirs fuel)

/-- A choice by patterns. -/
def readChoose : Nat → Reading Command
  | 0 => fail .tooDeep
  | fuel + 1 => do
    let _ ← readWord
    skipBlanks
    let word ← readWord
    expectKeyword "in"
    let arms ← readArms fuel
    return .group (.choose word arms) (← readRedirs fuel)

/-- The arms of a choice up to `esac`. -/
def readArms : Nat → Reading (List (List Word × Command))
  | 0 => fail .tooDeep
  | fuel + 1 => do
    skipLines
    if (← peekKeyword) = some "esac" then
      let _ ← readWord
      return []
    else
      if ← startsWith "(" then skip 1
      let patterns ← readPatterns fuel
      let body ← readList false fuel
      skipLines
      if ← startsWith ";;" then skip 2
      else if (← peekKeyword) ≠ some "esac" then failHere (some ";;")
      return (patterns, body) :: (← readArms fuel)

end

/-- The commands on the next line that holds any, with the lines that belong to them. -/
def readLine? : Reading (Option Command) := do
  skipLines
  if (← peek).isNone then return none
  let command ← readList true (stepsFor (← get))
  skipBlanks
  if (← peek).isNone then return some command
  else if ← startsWith "\n" then
    skip 1
    return some command
  else failHere none

end Greenlight.Host
