import Greenlight.Json
import Greenlight.Decimal.Notation
import Greenlight.Text.Quoted

/-! # Writing JSON

One entry a line, indented by two spaces a level, in ASCII alone: a character beyond ASCII is escaped
by its code point, or by the two surrogates of it. -/

namespace Greenlight.Json

/-- A number of four hexadecimal digits with its escape. -/
def unicodeEscape (n : Nat) : List Char := '\\' :: 'u' :: Text.hexDigits 4 n

/-- One character of a text. -/
def escapedChar (c : Char) : List Char :=
  if c = '"' then ['\\', '"']
  else if c = '\\' then ['\\', '\\']
  else if c = '\n' then ['\\', 'n']
  else if c = '\r' then ['\\', 'r']
  else if c = '\t' then ['\\', 't']
  else if c.toNat = 8 then ['\\', 'b']
  else if c.toNat = 12 then ['\\', 'f']
  else if 32 ≤ c.toNat ∧ c.toNat < 127 then [c]
  else if c.toNat < 0x10000 then unicodeEscape c.toNat
  else
    unicodeEscape (0xD800 + (c.toNat - 0x10000) / 0x400) ++
      unicodeEscape (0xDC00 + (c.toNat - 0x10000) % 0x400)

/-- A text between double quotes. -/
def textChars (s : String) : List Char := '"' :: s.toList.flatMap escapedChar ++ ['"']

/-- A whole number. -/
def intChars (n : Int) : List Char :=
  if n < 0 then '-' :: Decimal.digitChars n.natAbs else Decimal.digitChars n.natAbs

/-- A decimal in natural notation, with words for the values without digits. -/
def realChars : Decimal → List Char
  | .undefined => "NaN".toList
  | .infinite negative => (if negative then "-Infinity" else "Infinity").toList
  | d => d.text.toList

/-- A new line at an indentation level. -/
def newLine (level : Nat) : List Char := '\n' :: List.replicate (2 * level) ' '

mutual

/-- A value at an indentation level. -/
def valueChars (level : Nat) : Json → List Char
  | .null => "null".toList
  | .bool true => "true".toList
  | .bool false => "false".toList
  | .int n => intChars n
  | .real d => realChars d
  | .text s => textChars s
  | .list [] => ['[', ']']
  | .list (item :: rest) =>
    '[' :: newLine (level + 1) ++ valueChars (level + 1) item ++ itemsChars (level + 1) rest ++
      newLine level ++ [']']
  | .object [] => ['{', '}']
  | .object ((key, value) :: rest) =>
    '{' :: newLine (level + 1) ++ textChars key ++ [':', ' '] ++ valueChars (level + 1) value ++
      entriesChars (level + 1) rest ++ newLine level ++ ['}']

/-- The further items of a list. -/
def itemsChars (level : Nat) : List Json → List Char
  | [] => []
  | item :: rest => ',' :: newLine level ++ valueChars level item ++ itemsChars level rest

/-- The further entries of an object. -/
def entriesChars (level : Nat) : List (String × Json) → List Char
  | [] => []
  | (key, value) :: rest =>
    ',' :: newLine level ++ textChars key ++ [':', ' '] ++ valueChars level value ++
      entriesChars level rest

end

/-- The written form of a value. -/
def write (json : Json) : String := String.ofList (valueChars 0 json)

/-- The written form on one line: line feeds are layout only, as those of texts are escaped. -/
def writeLine (json : Json) : String := String.ofList ((valueChars 0 json).filter (· != '\n'))

end Greenlight.Json
