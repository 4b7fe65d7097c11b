import Greenlight.Decimal.Shortest

/-! # JSON values

Numbers without a fraction and an exponent are whole numbers; all others are kept as decimals.
Objects keep their entries in order. -/

namespace Greenlight

/-- A JSON value. -/
inductive Json where
  | null
  | bool (b : Bool)
  | int (n : Int)
  | real (d : Decimal)
  | text (s : String)
  | list (items : List Json)
  | object (entries : List (String × Json))
deriving Inhabited

namespace Json

/-- The last entry of a key. -/
def field? (key : String) : Json → Option Json
  | .object entries => (entries.reverse.find? (·.1 == key)).map (·.2)
  | _ => none

/-- A text or `null`. -/
def ofText? : Option String → Json
  | some s => .text s
  | none => .null

/-- A list of texts. -/
def ofTexts (texts : List String) : Json := .list (texts.map .text)

end Json

end Greenlight
