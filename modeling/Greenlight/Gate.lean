import Greenlight.Campaign
import Greenlight.Gate.Options
import Greenlight.Gate.Planning
import Greenlight.Report.Export
import Greenlight.Report.Printer

/-! # The gate

One run of the gate: settings, plan, campaign and report. Faults of the setup are reported; other
faults are let through. With the option to plan only, no command is run. -/

namespace Greenlight

/-- What all requests of a campaign with these settings have in common. -/
def Settings.setup (s : Settings) (env : Environment) : Setup where
  folder := s.root
  logFolder := s.resolvedLogFolder
  limits := {
    default := some s.taskLimit
    perStage := s.stageLimits.filterMap fun (name, seconds) =>
      (Stage.ofName? name).map fun stage => (stage, seconds) }
  previewBytes := s.previewBytes
  grace := s.grace
  environment := env

/-- How failures are weighed under these settings. -/
def Settings.policy (s : Settings) : Policy := ⟨s.strictAdvisory, s.advisoryFatal⟩

namespace Gate

/-- The answer of the gate: lines to print, and the exit code. -/
structure Verdict where
  lines : List String
  exitCode : Report.ExitCode
deriving DecidableEq, Repr

/-- The title under which a fault of the setup is reported. -/
def title? : Fault.Category → Option String
  | .badValue | .badEncoding => some "Configuration error"
  | .discovery => some "Discovery error"
  | .expansion => some "Expansion error"
  | _ => none

/-- The verdict on a run that could not be set up. -/
def notStarted (title : String) (fault : Fault) : Verdict :=
  ⟨[s!"{title}: {fault.message}", "Release check status: not started"], .setupFailure⟩

/-- What becomes of a fault of the setup. -/
def setupAnswer (fault : Fault) : Except Fault Verdict :=
  match title? fault.category with
  | some title => .ok (notStarted title fault)
  | none => .error fault

/-- Settings and queue of a run. -/
def prepare (yaml : Yaml.Reader) (o : Options) (env : Environment) (t : FileTree) :
    Except Fault (Settings × List Task) := do
  let s ← o.settings yaml t env
  let tasks ← s.plan t
  return (s, tasks)

/-- The verdict on a campaign, and the file tree with the exported report. -/
def conclude (o : Options) (report : Report) (t : FileTree) : Except Fault (Verdict × FileTree) :=
  let lines := report.lines o.showOutput
  match o.reportFile with
  | none => .ok (⟨lines, report.exitCode⟩, t)
  | some path => do
    let t ← report.writeTo path t
    return (⟨lines ++ [s!"Report written: {path.text}"], report.exitCode⟩, t)

/-- Runs the gate on a file tree: its verdict, or the fault that it lets through, and the campaign with
the trace of what was run. -/
def run (yaml : Yaml.Reader) (sur : Surroundings FileTree) (o : Options) (env : Environment)
    (t : FileTree) : Except Fault Verdict × Campaign FileTree :=
  match prepare yaml o env t with
  | .error fault => (setupAnswer fault, Campaign.idle t)
  | .ok (s, tasks) =>
    if o.planOnly then ((Plan.lines tasks).map fun lines => ⟨lines, .passed⟩, Campaign.idle t)
    else
      match (Campaign.idle t).run (s.setup env) sur s.policy tasks with
      | (.error fault, c) => (.error fault, c)
      | (.ok report, c) =>
        match conclude o report c.world with
        | .error fault => (.error fault, c)
        | .ok (verdict, t) => (.ok verdict, { c with world := t })

end Gate

end Greenlight
