import Greenlight.Text.Utf8
import Greenlight.Value

/-! # What can be wrong with a YAML text

Defects of form and structure make a text malformed. Contents that do not fit their tag fail while the
value is built, each in its own way. -/

namespace Greenlight.Yaml

/-- Defects of form and structure. -/
inductive FormError where
  | unprintable
  | strayCharacter
  | directive
  | tag
  | anchor
  | indentation
  | openQuote
  | badEscape
  | keyWithoutValue
  | keyNotAllowed
  | unexpectedToken
  | aliasUnknown
  | anchorRepeated
  | secondDocument
  | tagUnknown
  | wrongKind
  | keyNotHashable
  | mergeSource
  | binary
deriving DecidableEq, Repr

/-- A defect in words. -/
def FormError.message : FormError → String
  | .unprintable => "a character that is not printable"
  | .strayCharacter => "a character that starts no token"
  | .directive => "a malformed directive"
  | .tag => "a malformed tag"
  | .anchor => "a malformed anchor or alias"
  | .indentation => "a wrong indentation indicator"
  | .openQuote => "a quoted text without an end"
  | .badEscape => "an unknown escape"
  | .keyWithoutValue => "a key without a value indicator"
  | .keyNotAllowed => "an entry where none may stand"
  | .unexpectedToken => "a token where another one is expected"
  | .aliasUnknown => "an alias without its anchor"
  | .anchorRepeated => "an anchor that is used twice"
  | .secondDocument => "a second document"
  | .tagUnknown => "an unknown tag"
  | .wrongKind => "a node of another kind than its tag"
  | .keyNotHashable => "a key that is a collection"
  | .mergeSource => "a merge of something that is no mapping"
  | .binary => "malformed binary data"

/-- Why a text has no value. -/
inductive ReadError where
  | form (e : FormError)
  | encoding (e : Text.EncodingError)
  | number (e : NumberError)
  | calendar (e : CalendarError)
  /-- A truth value is none of the known words. -/
  | unknownWord
  /-- A number has no characters. -/
  | emptyNumber
  /-- A point in time is not written as one. -/
  | noTimestamp
  /-- A point in time is written as a mapping. -/
  | timestampInMapping
  /-- An escape names half of a surrogate pair. -/
  | surrogate
  /-- An escape is beyond the last code point. -/
  | beyondCodePoints
  /-- An escape is beyond the largest code that can be asked for. -/
  | beyondCodes
  /-- Collections lie too deep inside each other. -/
  | tooDeep
deriving DecidableEq, Repr

/-- Something that reads the value of a YAML text. -/
abbrev Reader := List UInt8 → Except ReadError Value

end Greenlight.Yaml
