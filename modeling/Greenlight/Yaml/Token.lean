/-! # YAML tokens

The tokens of a text: marks for documents, collections and their entries, properties of nodes, and
scalars. Block collections are marked by their indentation, which shows as start and end tokens. -/

namespace Greenlight.Yaml

/-- A token. -/
inductive Token where
  | version (major minor : Nat)
  | handle (name start : String)
  | otherDirective
  | documentStart
  | documentEnd
  | blockSequenceStart
  | blockMappingStart
  | blockEnd
  | flowSequenceStart
  | flowSequenceEnd
  | flowMappingStart
  | flowMappingEnd
  | blockEntry
  | flowEntry
  | key
  | value
  | alias (name : String)
  | anchor (name : String)
  /-- A tag is a suffix to a handle, or stands for itself. -/
  | tag (handle : Option String) (suffix : String)
  | scalar (text : String) (plain : Bool)
  | streamEnd
deriving DecidableEq, Repr

end Greenlight.Yaml
