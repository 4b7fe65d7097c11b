import Greenlight.Proofs.Failing
import Greenlight.Proofs.Settings.AlikeOptions

/-! # Fields of settings

Each field of the settings is an option with a key in the file, a variable, or both. Main statement: a field
is read from its own option, whatever the others are. -/

namespace Greenlight.Settings

/-- The fields of the settings. -/
inductive Field where
  | root
  | flags
  | featureSets
  | inclusion
  | exclusiveGroups
  | deniedExamples
  | taskLimit
  | stageLimits
  | grace
  | previewBytes
  | logFolder
  | strictAdvisory
  | advisoryFatal
  | skippedNames
  | toolchain
  | package
  | checks
deriving DecidableEq, Repr

namespace Field

/-- The key of a field in the configuration file. -/
def key : Field → String
  | root => "project_root"
  | flags => "flags"
  | featureSets => "feature_sets"
  | inclusion => "include_flags"
  | exclusiveGroups => "exclusive_groups"
  | deniedExamples => "example_denylist"
  | taskLimit => "timeout_per_task"
  | stageLimits => "stage_timeouts"
  | grace => "graceful_shutdown_seconds"
  | previewBytes => "output_preview_bytes"
  | logFolder => "log_dir"
  | strictAdvisory => "strict_advisory"
  | advisoryFatal => "advisory_failures_fatal"
  | skippedNames => "skip_stages"
  | toolchain => "cargo"
  | package => "package"
  | checks => "static_tasks"

/-- The variable that a field is read from, if it has one. -/
def envName? : Field → Option String
  | root => "PROJECT_ROOT"
  | flags => "FLAGS"
  | featureSets => "FEATURE_SETS"
  | inclusion => "EXCLUDE_FLAGS"
  | exclusiveGroups => "EXCLUSIVE_GROUPS"
  | deniedExamples => "EXAMPLE_DENYLIST"
  | taskLimit => "TIMEOUT_PER_TASK_SECONDS"
  | stageLimits => "STAGE_TIMEOUTS"
  | grace => "GRACEFUL_SHUTDOWN_SECONDS"
  | previewBytes => "OUTPUT_PREVIEW_BYTES"
  | logFolder => "LOG_DIR"
  | strictAdvisory => "STRICT_ADVISORY"
  | advisoryFatal => "ADVISORY_FAILURES_FATAL"
  | skippedNames => "SKIP_STAGES"
  | toolchain => "CARGO"
  | package => "PACKAGE"
  | checks => none

/-- A field is the same in two settings, where values of the file are compared by a relation. -/
def Agree (R : Value → Value → Prop) (s t : Settings) : Field → Prop
  | root => s.root = t.root
  | flags => s.flags = t.flags
  | featureSets => s.featureSets = t.featureSets
  | inclusion => s.inclusion = t.inclusion
  | exclusiveGroups => s.exclusiveGroups = t.exclusiveGroups
  | deniedExamples => s.deniedExamples = t.deniedExamples
  | taskLimit => s.taskLimit = t.taskLimit
  | stageLimits => s.stageLimits = t.stageLimits
  | grace => s.grace = t.grace
  | previewBytes => s.previewBytes = t.previewBytes
  | logFolder => s.logFolder = t.logFolder
  | strictAdvisory => s.strictAdvisory = t.strictAdvisory
  | advisoryFatal => s.advisoryFatal = t.advisoryFatal
  | skippedNames => s.skippedNames = t.skippedNames
  | toolchain => s.toolchain = t.toolchain
  | package => Option.Rel R s.package t.package
  | checks => Option.Rel (List.Forall₂ R) s.checks t.checks

/-- All fields. -/
def all : List Field := [root, package, toolchain, flags, featureSets, inclusion, exclusiveGroups,
  deniedExamples, taskLimit, stageLimits, strictAdvisory, advisoryFatal, skippedNames, logFolder,
  previewBytes, grace, checks]

theorem mem_all (f : Field) : f ∈ all := by
  cases f <;> decide

/-- Fields have different variables. -/
theorem eq_of_envName? {f g : Field} {x : String} (hf : f.envName? = some x)
    (hg : g.envName? = some x) : f = g := by
  have hfind (f : Field) : f.envName? = some x → all.find? (·.envName? == some x) = some f := by
    cases f <;> rintro ⟨⟩ <;> rfl
  exact Option.some.inj ((hfind f hf).symm.trans (hfind g hg))

/-- No field is read from the variable that names the configuration file. -/
theorem envName?_ne_config (f : Field) : f.envName? ≠ some "CONFIG" := by
  cases f <;> decide

/-! ## The values of options -/

/-- The value that a field is read from: that of its variable, else that in the file, else a default. -/
def value (o : Origin) (default : Value) (f : Field) : Value :=
  match f.envName? with
  | some x => o.option x f.key default
  | none => (Value.lookup o.file f.key).getD default

theorem value_of_set {o : Origin} {f : Field} {x s : String} (hx : f.envName? = some x)
    (hs : o.environment.valueOf? x = some s) (default : Value) : f.value o default = .text s := by
  simp only [value, hx, Origin.option, hs]

theorem value_of_unset {o : Origin} {f : Field}
    (h : ∀ x, f.envName? = some x → o.environment.valueOf? x = none) (default : Value) :
    f.value o default = (Value.lookup o.file f.key).getD default := by
  unfold value
  cases hx : f.envName? with
  | none => rfl
  | some x => simp only [Origin.option, h x hx]

/-- A field is read from its option. Variables leave out flags besides those in the file. -/
def Reads (o : Origin) (given : Option Path) (s : Settings) : Field → Prop
  | root => given.elim (readPath (root.value o (.text "."))) .ok = .ok s.root
  | flags => readNames (flags.value o (.list [])) = .ok s.flags
  | featureSets => readFlagSets (featureSets.value o .null) = .ok s.featureSets
  | inclusion => ∃ excluded,
    readNames (.text ((o.environment.valueOf? "EXCLUDE_FLAGS").getD "")) = .ok excluded ∧
      readInclusion (Value.lookup o.file "include_flags") excluded = .ok s.inclusion
  | exclusiveGroups => readGroups (exclusiveGroups.value o (.list [])) = .ok s.exclusiveGroups
  | deniedExamples => readNames (deniedExamples.value o (.list [])) = .ok s.deniedExamples
  | taskLimit => readSeconds (taskLimit.value o (.ofDatum (.float 1800))) = .ok s.taskLimit
  | stageLimits => readLimits (stageLimits.value o (.map [])) = .ok s.stageLimits
  | grace => readSeconds (grace.value o (.ofDatum (.float 10))) = .ok s.grace
  | previewBytes => readCount (previewBytes.value o (.ofDatum (.int 64000))) = .ok s.previewBytes
  | logFolder => readPath (logFolder.value o (.text ".release-gate/logs")) = .ok s.logFolder
  | strictAdvisory => readBool "STRICT_ADVISORY" (strictAdvisory.value o (.ofDatum (.bool false))) =
    .ok s.strictAdvisory
  | advisoryFatal => readBool "ADVISORY_FAILURES_FATAL"
    (advisoryFatal.value o (.ofDatum (.bool true))) = .ok s.advisoryFatal
  | skippedNames => readNames (skippedNames.value o (.list [])) = .ok s.skippedNames
  | toolchain => readCommand (toolchain.value o (.text "cargo")) = .ok s.toolchain
  | package => readPackage (package.value o .null) = s.package
  | checks => readChecks o.file = .ok s.checks

end Field

/-- Settings that are the same, where values of the file are compared up to their numbers. -/
def Alike (s t : Settings) : Prop := ∀ f, Field.Agree Value.Alike s t f

/-- Settings are read field by field. -/
theorem reads_of_ofOrigin {o : Origin} {given : Option Path} {s : Settings}
    (h : ofOrigin o given = .ok s) (f : Field) : f.Reads o given s := by
  unfold ofOrigin at h
  extract_lets package rest at h
  have hstart : ∃ root,
      given.elim (readPath (Field.root.value o (.text "."))) .ok = .ok root ∧ rest root = .ok s := by
    cases given with
    | none => exact bind_eq_ok_iff.1 h
    | some root => exact ⟨root, rfl, h⟩
  obtain ⟨_, hroot, h⟩ := hstart
  simp only [rest, bind_eq_ok_iff] at h
  obtain ⟨_, hchecks, _, hflags, _, hsets, _, hexcluded, _, hinclusion, _, hgroups, _, hdenied, _,
    htask, _, hlimits, _, hgrace, _, hbytes, _, hlog, _, hstrict, _, hfatal, _, hskipped, _,
    htoolchain, hs⟩ := h
  cases hs
  cases f with
  | root => exact hroot
  | flags => exact hflags
  | featureSets => exact hsets
  | inclusion => exact ⟨_, hexcluded, hinclusion⟩
  | exclusiveGroups => exact hgroups
  | deniedExamples => exact hdenied
  | taskLimit => exact htask
  | stageLimits => exact hlimits
  | grace => exact hgrace
  | previewBytes => exact hbytes
  | logFolder => exact hlog
  | strictAdvisory => exact hstrict
  | advisoryFatal => exact hfatal
  | skippedNames => exact hskipped
  | toolchain => exact htoolchain
  | package => rfl
  | checks => exact hchecks

end Greenlight.Settings
