/-! # Words of a shell command

A command line is cut into words at spaces, tabs and line ends. Single quotes keep everything between
them; between double quotes a backslash keeps its meaning only before a double quote or a backslash;
elsewhere a backslash takes the next character as it is. -/

namespace Greenlight.Text.ShellWords

/-- Why a command line has no words. -/
inductive Defect where
  | openQuote
  | openEscape
deriving DecidableEq, Repr

/-- The cause in words. -/
def Defect.message : Defect → String
  | .openQuote => "No closing quotation"
  | .openEscape => "No escaped character"

/-- Where in the command line a character stands. -/
inductive Place where
  | unquoted
  | inQuote (quote : Char)
  | escaped (inQuote : Option Char)

/-- Characters that separate words. -/
def isSeparator (c : Char) : Bool := c == ' ' || c == '\t' || c == '\r' || c == '\n'

/-- The word begun so far, last character first; `none` between words. -/
abbrev Begun := Option (List Char)

/-- One more character of the word. -/
def Begun.push (word : Begun) (c : Char) : Begun := some (c :: word.getD [])

/-- The words begun and still to come. -/
def splitFrom (place : Place) (word : Begun) : List Char → Except Defect (List (List Char))
  | [] =>
    match place with
    | .unquoted => .ok (word.toList.map List.reverse)
    | .inQuote _ => .error .openQuote
    | .escaped _ => .error .openEscape
  | c :: rest =>
    match place with
    | .unquoted =>
      if isSeparator c then
        (splitFrom .unquoted none rest).map (word.toList.map List.reverse ++ ·)
      else if c = '\'' ∨ c = '"' then splitFrom (.inQuote c) word rest
      else if c = '\\' then splitFrom (.escaped none) word rest
      else splitFrom .unquoted (Begun.push word c) rest
    | .inQuote quote =>
      if c = quote then splitFrom .unquoted (some (word.getD [])) rest
      else if c = '\\' ∧ quote = '"' then splitFrom (.escaped (some quote)) (some (word.getD [])) rest
      else splitFrom (.inQuote quote) (Begun.push word c) rest
    | .escaped none => splitFrom .unquoted (Begun.push word c) rest
    | .escaped (some quote) =>
      let kept := if c = '\\' ∨ c = quote then word else Begun.push word '\\'
      splitFrom (.inQuote quote) (Begun.push kept c) rest

/-- The words of a command line. -/
def split (s : String) : Except Defect (List String) :=
  (splitFrom .unquoted none s.toList).map (·.map String.ofList)

end Greenlight.Text.ShellWords
