import Greenlight.Outcome

/-! # Reports

The final record of a campaign, and the ledger in which its outcomes are gathered until the record is
drawn up once. -/

namespace Greenlight

/-- The phases of a campaign. -/
inductive Phase where
  | idle
  | running
  | completed
  | aborted
deriving DecidableEq, Repr

/-- The name of a phase. -/
def Phase.name : Phase → String
  | .idle => "idle"
  | .running => "running"
  | .completed => "completed"
  | .aborted => "aborted"

/-- The final record of a campaign. -/
structure Report where
  outcomes : List Outcome
  phase : Phase
  passed : Bool
  firstFailure : Option String
  notRun : List String
  advisoryFailures : List String
  interrupted : Bool
  seconds : Float

namespace Report

/-- Draws up the record. A completed campaign passes unless an advisory failure counts as fatal. The
first failure is the one that stopped the campaign, or else the first advisory one. -/
def conclude (phase : Phase) (stoppedBy : Option String) (notRun : List String)
    (advisoryFatal interrupted : Bool) (outcomes : List Outcome) (seconds : Float) : Report :=
  let advisory := (outcomes.filter Outcome.isAdvisoryFailure).map Outcome.taskId
  { outcomes, phase, notRun, interrupted, seconds
    passed := phase == .completed && !(!advisory.isEmpty && advisoryFatal)
    firstFailure := stoppedBy.orElse fun _ => advisory.head?
    advisoryFailures := advisory }

/-- The exit codes of the program. -/
inductive ExitCode where
  | passed
  | blockingFailure
  | advisoryFailure
  | setupFailure
  | interrupted
deriving DecidableEq, Repr

/-- The number of an exit code. -/
def ExitCode.number : ExitCode → Nat
  | .passed => 0
  | .blockingFailure => 1
  | .advisoryFailure => 3
  | .setupFailure => 4
  | .interrupted => 130

/-- The exit code of a report. -/
def exitCode (r : Report) : ExitCode :=
  if r.passed then .passed
  else if r.interrupted then .interrupted
  else if r.phase = .aborted then .blockingFailure
  else .advisoryFailure

/-- The ids of the executed tasks, in order. -/
def executedIds (r : Report) : List String := r.outcomes.map Outcome.taskId

/-- The place of the first outcome of a task. -/
def indexOf? (r : Report) (id : String) : Option Nat := r.outcomes.findIdx? (·.taskId == id)

/-- The first outcome of a task. -/
def outcomeFor? (r : Report) (id : String) : Option Outcome := r.outcomes.find? (·.taskId == id)

end Report

/-- Outcomes gathered since a moment, and the record once it is drawn up. -/
structure Ledger where
  outcomes : List Outcome
  started : Float
  report : Option Report

namespace Ledger

/-- An empty ledger. -/
def opened (now : Float) : Ledger := ⟨[], now, none⟩

/-- Adds an outcome to a ledger whose record is not drawn up. -/
def append (l : Ledger) (o : Outcome) : Except Fault Ledger :=
  match l.report with
  | some _ => .error (.lifecycle .alreadyFinal)
  | none => .ok { l with outcomes := l.outcomes ++ [o] }

/-- Draws up the record, once. -/
def finalize (l : Ledger) (now : Float) (phase : Phase) (stoppedBy : Option String)
    (notRun : List String) (advisoryFatal interrupted : Bool) : Except Fault (Report × Ledger) :=
  match l.report with
  | some _ => .error (.lifecycle .alreadyFinal)
  | none =>
    let report := Report.conclude phase stoppedBy notRun advisoryFatal interrupted l.outcomes
      (now - l.started)
    .ok (report, { l with report := some report })

end Ledger

end Greenlight
