import Greenlight.Toml.Error
import Greenlight.Json.Reader

/-! # Texts in quotes

A text stands between double quotes, where a backslash begins an escape, or between single quotes,
where every character stands for itself. Three quotes on each side let it go over several lines. Each
reader starts behind the opening quotes and gives the characters of the text and what follows it. -/

namespace Greenlight.Toml

/-- Control characters, which only escapes can bring into a text. -/
def isStray (c : Char) : Bool := (c.toNat < 32 && c != '\t') || c.toNat == 127

/-- Spaces and tabs. -/
def isBlank (c : Char) : Bool := c == ' ' || c == '\t'

/-- What a letter after a backslash stands for. -/
def escapeLetter? : Char → Option Char
  | 'b' => some '\x08'
  | 't' => some '\t'
  | 'n' => some '\n'
  | 'f' => some '\x0c'
  | 'r' => some '\r'
  | '"' => some '"'
  | '\\' => some '\\'
  | _ => none

/-- The number of digits of an escape by code point. -/
def escapeDigits? : Char → Option Nat
  | 'u' => some 4
  | 'U' => some 8
  | _ => none

/-- The character whose code point the first digits of a text give. -/
def charOfDigits? (digits : Nat) (cs : List Char) : Option Char :=
  match (cs.take digits).foldlM (fun n c => (Json.hexDigit? c).map (16 * n + ·)) 0 with
  | some code => if digits ≤ cs.length ∧ code.isValidChar then some (Char.ofNat code) else none
  | none => none

/-- Puts a character in front of a text that is read. -/
def withChar (c : Char) (r : Except FormError (List Char × List Char)) :
    Except FormError (List Char × List Char) :=
  r.map fun (text, rest) => (c :: text, rest)

/-- A text between double quotes, over several lines or not. A backslash at the end of a line takes
away the line end and all blanks and line ends after it, which `trim` says. -/
def readBasic (long trim : Bool) (cs : List Char) : Except FormError (List Char × List Char) :=
  match cs with
  | [] => .error .openText
  | c :: rest =>
    if trim && (isBlank c || c == '\n') then readBasic long true rest
    else if c == '"' then
      if !long then .ok ([], rest)
      else if ['"', '"'].isPrefixOf rest then .ok ([], rest.drop 2)
      else withChar c (readBasic long false rest)
    else if c == '\\' then
      match rest with
      | [] => .error .badEscape
      | e :: rest =>
        match escapeLetter? e, escapeDigits? e with
        | some letter, _ => withChar letter (readBasic long false rest)
        | none, some digits =>
          match charOfDigits? digits rest with
          | some letter => withChar letter (readBasic long false (rest.drop digits))
          | none => .error .badEscape
        | none, none =>
          if long && (e == '\n' || (isBlank e && (rest.dropWhile isBlank).head? == some '\n')) then
            readBasic long true rest
          else .error .badEscape
    else if isStray c && !(long && c == '\n') then .error .strayControl
    else withChar c (readBasic long false rest)
termination_by cs.length
decreasing_by all_goals simp only [List.length_cons, List.length_drop]; omega

/-- A text between single quotes, over several lines or not. -/
def readLiteral (long : Bool) : List Char → Except FormError (List Char × List Char)
  | [] => .error .openText
  | c :: rest =>
    if c == '\'' && !long then .ok ([], rest)
    else if c == '\'' && ['\'', '\''].isPrefixOf rest then .ok ([], rest.drop 2)
    else if isStray c && !(long && c == '\n') then .error .strayControl
    else withChar c (readLiteral long rest)

/-- Three quotes that close a text may have one or two more in front of them, which belong to it. -/
def addQuotes (quote : Char) (text rest : List Char) : List Char × List Char :=
  let more := (rest.take 2).takeWhile (· == quote)
  (text ++ more, rest.drop more.length)

/-- A text on one line, from behind its opening quote on. -/
def readShort (quote : Char) (cs : List Char) : Except FormError (String × List Char) :=
  (if quote = '"' then readBasic false false cs else readLiteral false cs).map
    fun (text, rest) => (String.ofList text, rest)

/-- A text over several lines, from behind its opening quotes on; a line end there is left out. -/
def readLong (quote : Char) (cs : List Char) : Except FormError (String × List Char) :=
  let cs := if cs.head? = some '\n' then cs.tail else cs
  (if quote = '"' then readBasic true false cs else readLiteral true cs).map fun (text, rest) =>
    let (text, rest) := addQuotes quote text rest
    (String.ofList text, rest)

/-- A text of either form, from behind its first quote on. -/
def readText (quote : Char) (cs : List Char) : Except FormError (String × List Char) :=
  if [quote, quote].isPrefixOf cs then readLong quote (cs.drop 2) else readShort quote cs

end Greenlight.Toml
