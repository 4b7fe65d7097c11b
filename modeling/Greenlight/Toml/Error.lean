import Greenlight.Toml.Value

/-! # What can be wrong with a TOML text -/

namespace Greenlight.Toml

/-- Why a text is no TOML document. -/
inductive FormError where
  | strayControl
  | badStatement
  | badKey
  | keyRepeated
  | tableRepeated
  | badHeader
  | notAppendable
  | badValue
  | badEscape
  | openText
  | openArray
  | openTable
  | trailing
  | calendar
deriving DecidableEq, Repr

/-- A defect in words. -/
def FormError.message : FormError → String
  | .strayControl => "a control character"
  | .badStatement => "a malformed statement"
  | .badKey => "a malformed key"
  | .keyRepeated => "a key that is set twice"
  | .tableRepeated => "a table that is declared twice"
  | .badHeader => "a malformed table header"
  | .notAppendable => "an addition to a value that is closed"
  | .badValue => "a malformed value"
  | .badEscape => "an unknown escape"
  | .openText => "a text without an end"
  | .openArray => "an array without an end"
  | .openTable => "a table without an end"
  | .trailing => "characters after a statement"
  | .calendar => "a date or time that does not exist"

/-- Why a text has no value. -/
inductive ReadError where
  | form (e : FormError)
  /-- A whole number has too many digits. -/
  | number (e : NumberError)
deriving DecidableEq, Repr

end Greenlight.Toml
