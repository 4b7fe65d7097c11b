import Greenlight.Entries
import Greenlight.Value.Datum

/-! # TOML values

A TOML value is a tree. The entries of a table stand in the order in which they came. -/

namespace Greenlight.Toml

/-- A value of a TOML document. -/
inductive Value where
  | datum (d : Datum)
  | list (items : List Value)
  | table (entries : List (String × Value))
deriving Inhabited

/-- The entries of a table. -/
abbrev Table := List (String × Value)

/-- Empty collections hold no more than the data that do not hold. -/
def Value.holds : Value → Bool
  | .datum d => d.holds
  | .list items => !items.isEmpty
  | .table entries => !entries.isEmpty

end Greenlight.Toml
