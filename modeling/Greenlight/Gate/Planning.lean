import Greenlight.Discovery.Examples
import Greenlight.Discovery.Features
import Greenlight.Plan
import Greenlight.Settings

/-! # From settings to a plan

The plan of a run: what discovery finds in the crate and what the settings declare, without the stages
to skip. -/

namespace Greenlight.Settings

/-- A package as part of a command. -/
def packageArg (v : Value) : Arg := v.text?.elim .foreign .text

/-- How the tools of the crate are called. -/
def tools (s : Settings) : Toolchain := ⟨s.toolchain, s.package.map packageArg⟩

/-- The policy on combinations of flags. -/
def featurePolicy (s : Settings) : Discovery.FeaturePolicy :=
  ⟨s.featureSets, s.inclusion, s.exclusiveGroups⟩

/-- The names of the examples to run. -/
def planExamples (s : Settings) (t : FileTree) (skipped : List Stage) :
    Except Fault (List String) :=
  if skipped.contains .examples then .ok []
  else (Discovery.examples t s.root s.deniedExamples).map (·.map (·.name))

/-- The flags of the crate: those of the settings, or those that the manifest declares. -/
def knownFlags (s : Settings) (t : FileTree) : Except Fault (List String) :=
  if s.flags.isEmpty then Discovery.featureFlags t s.root else .ok s.flags

/-- The combinations of flags to test. -/
def planFeatures (s : Settings) (t : FileTree) (skipped : List Stage) :
    Except Fault (List FeatureSet) :=
  if skipped.contains .tests then .ok []
  else do Discovery.featureSets (← s.knownFlags t) s.featurePolicy

/-- The fixed checks: those that the settings declare, or the default ones. -/
def planChecks (s : Settings) (skipped : List Stage) : Except Fault (List FixedCheck) := do
  let checks ← match s.checks with
    | some declared => FixedCheck.readAll s.tools declared
    | none => pure (FixedCheck.defaults s.tools)
  return checks.filter fun check => !skipped.contains check.stage

/-- The queue of tasks. -/
def plan (s : Settings) (t : FileTree) : Except Fault (List Task) := do
  let skipped ← s.skippedStages
  let examples ← s.planExamples t skipped
  let features ← s.planFeatures t skipped
  let checks ← s.planChecks skipped
  Plan.expand s.tools examples features checks

end Greenlight.Settings
