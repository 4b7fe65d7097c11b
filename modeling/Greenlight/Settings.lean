import Greenlight.Settings.Reading

/-! # Settings

The settings of a campaign. Each option comes from its environment variable, else from the
configuration file, else it has a default. Settings are checked before they are used. How the text of a
configuration file is read is left open. -/

namespace Greenlight

/-- The environment of the program. -/
abbrev Environment := List (String × String)

/-- The value of one of the program's variables; the start of its name is left out. -/
def Environment.valueOf? (env : Environment) (name : String) : Option String :=
  Entries.get? env (variableStart ++ name)

/-- The names of the program's variables, without their common start. -/
def Environment.variableNames : List String := [
  "CONFIG", "PROJECT_ROOT", "PACKAGE", "CARGO", "FLAGS", "FEATURE_SETS", "EXCLUDE_FLAGS",
  "EXCLUSIVE_GROUPS", "EXAMPLE_DENYLIST", "TIMEOUT_PER_TASK_SECONDS", "STAGE_TIMEOUTS",
  "GRACEFUL_SHUTDOWN_SECONDS", "OUTPUT_PREVIEW_BYTES", "LOG_DIR", "STRICT_ADVISORY",
  "ADVISORY_FAILURES_FATAL", "SKIP_STAGES"]

/-- The settings of a campaign. -/
structure Settings where
  root : Path
  flags : List String
  featureSets : Option (List FlagSet)
  inclusion : List (String × Bool)
  exclusiveGroups : List FlagSet
  deniedExamples : List String
  taskLimit : Float
  stageLimits : List (String × Float)
  grace : Float
  previewBytes : Int
  logFolder : Path
  strictAdvisory : Bool
  advisoryFatal : Bool
  skippedNames : List String
  toolchain : List String
  package : Option Value
  /-- Declarations of checks in place of the fixed ones. -/
  checks : Option (List Value)

namespace Settings

/-! ## Configuration files -/

/-- The keys of a configuration file. -/
def fileKeys : List String := [
  "project_root", "package", "cargo", "flags", "feature_sets", "include_flags", "exclusive_groups",
  "example_denylist", "timeout_per_task", "stage_timeouts", "strict_advisory",
  "advisory_failures_fatal", "skip_stages", "log_dir", "output_preview_bytes",
  "graceful_shutdown_seconds", "static_tasks"]

/-- A key that a configuration file may have. -/
def isFileKey : Datum → Bool
  | .text s => fileKeys.contains s
  | _ => false

/-- The entries of a configuration file from its value. -/
def entriesOf (path : Path) (v : Value) : Except Fault (List (Datum × Value)) :=
  match v.content with
  | .datum .null => .ok []
  | .map entries => do
    let unknown ← (entries.filter (!isFileKey ·.1)).mapM fun (key, _) => (Value.ofDatum key).written
    if unknown.isEmpty then return entries
    else throw (.settings (.unknownKeys path (Text.sort unknown)))
  | _ => .error (.settings (.fileNoMapping path))

/-- The entries of a configuration file. -/
def readEntries (yaml : Yaml.Reader) (t : FileTree) (path : Path) :
    Except Fault (List (Datum × Value)) := do
  if !FileTree.isNameable path.text then throw .unnameable
  let bytes ← match t.read path.text with
    | .ok bytes => pure bytes
    | .error e => throw (if e.problem = .missing then .settings (.fileMissing path) else .file e)
  match yaml bytes with
  | .ok v => entriesOf path v
  | .error (.form e) => throw (.settings (.fileMalformed path e))
  | .error e => throw (.yaml e)

/-! ## Options -/

/-- Where options come from: the environment, and the entries of the configuration file. -/
structure Origin where
  environment : Environment
  file : List (Datum × Value)

/-- The value of an option: its variable, else its entry in the file, else the default. -/
def Origin.option (o : Origin) (variable_ key : String) (default : Value) : Value :=
  match o.environment.valueOf? variable_ with
  | some s => .text s
  | none => (Value.lookup o.file key).getD default

/-- The declarations of checks, which only a file can hold. -/
def readChecks (file : List (Datum × Value)) : Except Fault (Option (List Value)) :=
  match ((Value.lookup file "static_tasks").getD .null).content with
  | .datum .null => .ok none
  | .list items => .ok (some items)
  | _ => .error (.settings .checksNoList)

/-- A package that is set. -/
def readPackage (v : Value) : Option Value := if v.holds then some v else none

/-- Settings from their origin; a root that is given wins over the option. -/
def ofOrigin (o : Origin) (root : Option Path) : Except Fault Settings := do
  let root ← match root with
    | some root => pure root
    | none => readPath (o.option "PROJECT_ROOT" "project_root" (.text "."))
  let checks ← readChecks o.file
  let flags ← readNames (o.option "FLAGS" "flags" (.list []))
  let featureSets ← readFlagSets (o.option "FEATURE_SETS" "feature_sets" .null)
  let excluded ← readNames (.text ((o.environment.valueOf? "EXCLUDE_FLAGS").getD ""))
  let inclusion ← readInclusion (Value.lookup o.file "include_flags") excluded
  let exclusiveGroups ← readGroups (o.option "EXCLUSIVE_GROUPS" "exclusive_groups" (.list []))
  let deniedExamples ← readNames (o.option "EXAMPLE_DENYLIST" "example_denylist" (.list []))
  let taskLimit ← readSeconds (o.option "TIMEOUT_PER_TASK_SECONDS" "timeout_per_task" (.ofDatum (.float 1800)))
  let stageLimits ← readLimits (o.option "STAGE_TIMEOUTS" "stage_timeouts" (.map []))
  let grace ← readSeconds
    (o.option "GRACEFUL_SHUTDOWN_SECONDS" "graceful_shutdown_seconds" (.ofDatum (.float 10)))
  let previewBytes ← readCount (o.option "OUTPUT_PREVIEW_BYTES" "output_preview_bytes" (.ofDatum (.int 64000)))
  let logFolder ← readPath (o.option "LOG_DIR" "log_dir" (.text ".release-gate/logs"))
  let strictAdvisory ← readBool "STRICT_ADVISORY"
    (o.option "STRICT_ADVISORY" "strict_advisory" (.ofDatum (.bool false)))
  let advisoryFatal ← readBool "ADVISORY_FAILURES_FATAL"
    (o.option "ADVISORY_FAILURES_FATAL" "advisory_failures_fatal" (.ofDatum (.bool true)))
  let skippedNames ← readNames (o.option "SKIP_STAGES" "skip_stages" (.list []))
  let toolchain ← readCommand (o.option "CARGO" "cargo" (.text "cargo"))
  let package := readPackage (o.option "PACKAGE" "package" .null)
  return Settings.mk root flags featureSets inclusion exclusiveGroups deniedExamples taskLimit stageLimits
    grace previewBytes logFolder strictAdvisory advisoryFatal skippedNames toolchain package checks

/-- The configuration file: the given one, or the one that its variable names. -/
def filePath (env : Environment) (given : Option Path) : Option Path :=
  given.orElse fun _ =>
    (env.valueOf? "CONFIG").bind fun s => if s.isEmpty then none else some (Path.ofText s)

/-- Loads settings. -/
def load (yaml : Yaml.Reader) (t : FileTree) (env : Environment) (file root : Option Path) :
    Except Fault Settings := do
  let entries ← match filePath env file with
    | some path => readEntries yaml t path
    | none => pure []
  ofOrigin ⟨env, entries⟩ root

/-! ## Checks -/

/-- A name is that of a stage. -/
def checkStageName (option name : String) : Except Fault Unit :=
  if (Stage.ofName? name).isSome then .ok () else .error (.settings (.stageUnknown option name))

/-- Refuses a setting if a condition holds. -/
def refuseIf (condition : Bool) (e : SettingsError) : Except Fault Unit :=
  if condition then .error (.settings e) else .ok ()

/-- Limits lie above zero and stages have names that exist. -/
def check (s : Settings) : Except Fault Unit := do
  refuseIf (s.taskLimit ≤ 0) .taskLimitNotPositive
  refuseIf (s.grace < 0) .graceNegative
  refuseIf (s.previewBytes ≤ 0) .previewNotPositive
  s.stageLimits.forM fun (name, seconds) => do
    checkStageName "STAGE_TIMEOUTS" name
    refuseIf (seconds ≤ 0) (.stageLimitNotPositive name seconds)
  s.skippedNames.forM (checkStageName "SKIP_STAGES")
  refuseIf s.toolchain.isEmpty .toolchainEmpty
  refuseIf (s.flags.eraseDups.length != s.flags.length) .flagsRepeated

/-- The log folder, below the root unless its path is absolute. -/
def resolvedLogFolder (s : Settings) : Path := s.root.join s.logFolder

/-- The stages to skip. -/
def skippedStages (s : Settings) : Except Fault (List Stage) :=
  (s.skippedNames.mapM Stage.ofName).map List.eraseDups

end Settings

end Greenlight
