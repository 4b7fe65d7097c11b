import Greenlight.Yaml.Builder

/-! # YAML

The value of a YAML file. Characters, tokens and nodes are read one after another as far as the next one
asks for them, so of two defects the one that is reached first counts; values are built only when the
whole file has nodes. -/

namespace Greenlight.Yaml

/-- The value of a file; a text without a document has the value `null`. -/
def read (bytes : List UInt8) : Except ReadError Value := do
  match ← Node.ofSource (.ofBytes bytes) with
  | none => return .null
  | some document => Builder.read document

end Greenlight.Yaml
