import Greenlight.Task
import Greenlight.Text.Quoted

/-! # What can be wrong with declared checks -/

namespace Greenlight

/-- Why declared checks make no plan. Values are given as they are shown. -/
inductive ExpansionError where
  | noMapping (index : Nat)
  | noId (index : Nat)
  | noCommand (id : String)
  | commandEmpty (id : String)
  | severityUnknown (id shown : String)
  | stageUnknown (id shown : String)
  | stageDiscovered (id : String) (stage : Stage)
  | environmentNoMapping (id : String)
  | idRepeated (id : String)
deriving DecidableEq, Repr

/-- The cause in words. -/
def ExpansionError.message : ExpansionError → String
  | .noMapping index => s!"Static task #{index} must be a mapping."
  | .noId index => s!"Static task #{index} has no id."
  | .noCommand id => s!"Static task {Text.quoted id} command must be a string or list."
  | .commandEmpty id => s!"Static task {Text.quoted id} has an empty command."
  | .severityUnknown id shown => s!"Static task {Text.quoted id} has unknown class {shown}."
  | .stageUnknown id shown => s!"Static task {Text.quoted id} has unknown stage {shown}."
  | .stageDiscovered id stage =>
    s!"Static task {Text.quoted id} cannot use discovered stage {Text.quoted stage.name}."
  | .environmentNoMapping id => s!"Static task {Text.quoted id} env must be a mapping."
  | .idRepeated id => s!"Duplicate task id: {Text.quoted id}"

end Greenlight
