import Greenlight.Path
import Greenlight.Task
import Greenlight.Text.Quoted
import Greenlight.Decimal.Notation
import Greenlight.Yaml.Error

/-! # What can be wrong with settings -/

namespace Greenlight

/-- The start of the name of every environment variable of the program. -/
def variableStart : String := "RELEASE_GATE_"

/-- Why settings cannot be read, or are refused once they are. Values are given as they are shown. -/
inductive SettingsError where
  | fileMissing (path : Path)
  | fileMalformed (path : Path) (cause : Yaml.FormError)
  | fileNoMapping (path : Path)
  | unknownKeys (path : Path) (keys : List String)
  | checksNoList
  | noNameList (shown : String)
  | noFlagSet (shown : String)
  | noFlagSets (shown : String)
  | noGroups (shown : String)
  | inclusionNoMapping
  | limitEntry (entry : String)
  | noLimits (shown : String)
  | stageLimit (stage shown : String)
  | noCommand (shown : String)
  | noBool (option shown : String)
  | taskLimitNotPositive
  | graceNegative
  | previewNotPositive
  | stageLimitNotPositive (stage : String) (seconds : Float)
  | stageUnknown (option stage : String)
  | toolchainEmpty
  | flagsRepeated

/-- The cause in words. -/
def SettingsError.message : SettingsError → String
  | .fileMissing path => s!"Config file not found: {path.text}"
  | .fileMalformed path cause => s!"Invalid YAML in {path.text}: {cause.message}"
  | .fileNoMapping path => s!"Config file must contain a YAML mapping: {path.text}"
  | .unknownKeys path keys => s!"Unknown config key(s) in {path.text}: " ++ Text.join ", " keys
  | .checksNoList => "Config key 'static_tasks' must be a list of mappings."
  | .noNameList shown => s!"Expected a comma-separated string or list, got {shown}"
  | .noFlagSet shown => s!"Invalid feature set: {shown}"
  | .noFlagSets shown => s!"Invalid feature_sets value: {shown}"
  | .noGroups shown => s!"Invalid exclusive_groups value: {shown}"
  | .inclusionNoMapping => "Config key 'include_flags' must be a mapping of flag -> bool."
  | .limitEntry entry =>
    s!"Invalid {variableStart}STAGE_TIMEOUTS entry: {Text.quoted entry}. " ++
      "Expected format '<stage>=<seconds>'."
  | .noLimits shown => s!"Invalid stage_timeouts value: {shown}"
  | .stageLimit stage shown => s!"Invalid timeout for stage {Text.quoted stage}: {shown}"
  | .noCommand shown => s!"Invalid cargo command: {shown}"
  | .noBool option shown => s!"Invalid boolean value for {option}: {shown}"
  | .taskLimitNotPositive => s!"{variableStart}TIMEOUT_PER_TASK_SECONDS must be > 0."
  | .graceNegative => s!"{variableStart}GRACEFUL_SHUTDOWN_SECONDS must be >= 0."
  | .previewNotPositive => s!"{variableStart}OUTPUT_PREVIEW_BYTES must be a positive integer."
  | .stageLimitNotPositive stage seconds =>
    s!"Stage timeout must be positive: {Text.quoted stage} -> {floatText seconds}"
  | .stageUnknown option stage =>
    s!"Invalid stage in {variableStart}{option}: {Text.quoted stage}. Expected one of: " ++
      Text.join ", " (Stage.all.map Stage.name)
  | .toolchainEmpty => s!"{variableStart}CARGO must not be empty."
  | .flagsRepeated => s!"{variableStart}FLAGS contains duplicate flag names."

end Greenlight
