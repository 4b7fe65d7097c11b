import Greenlight.Process
import Greenlight.Diagnosis

/-! # Outcomes

The record of one executed task. -/

namespace Greenlight

/-- Why a task did not succeed. -/
inductive FailureKind where
  | exitStatus
  | timeout
  | notStarted
  | interrupted
deriving DecidableEq, Repr

/-- The name of a kind of failure. -/
def FailureKind.name : FailureKind → String
  | .exitStatus => "exit_nonzero"
  | .timeout => "timeout"
  | .notStarted => "not_started"
  | .interrupted => "interrupted"

/-- The record of one executed task. -/
structure Outcome where
  taskId : String
  /-- The severity that the task declares. -/
  declared : Severity
  /-- The severity that its failure has. -/
  effective : Severity
  exitStatus : Option Int
  succeeded : Bool
  stdout : List UInt8
  stderr : List UInt8
  seconds : Float
  failureKind : Option FailureKind
  reason : Option String
  error : Option String
  stdoutPath : Option Path
  stderrPath : Option Path
  details : Option (List (String × Json))

namespace Outcome

/-- The failure weighs more than the task declares, or less. -/
def isEscalated (o : Outcome) : Bool := o.declared != o.effective

/-- A failure that stops the campaign. -/
def blocks (o : Outcome) : Bool := !o.succeeded && o.effective == .blocking

/-- A failure that does not stop the campaign. -/
def isAdvisoryFailure (o : Outcome) : Bool := !o.succeeded && o.effective == .advisory

/-- The same outcome as a failure that stops the campaign. -/
def escalate (o : Outcome) : Outcome := { o with effective := .blocking }

/-- The outcome of a task whose process was not started. -/
def ofStartFailure (task : Task) (message : String) : Outcome where
  taskId := task.id
  declared := task.severity
  effective := .blocking
  exitStatus := none
  succeeded := false
  stdout := []
  stderr := []
  seconds := 0
  failureKind := some .notStarted
  reason := some "not_started"
  error := some message
  stdoutPath := none
  stderrPath := none
  details := none

/-- What every outcome of a process that ran has in common, for one that succeeded. -/
def ofSuccess (task : Task) (request : Request) (shown : ProcessResult) (seconds : Float) :
    Outcome where
  taskId := task.id
  declared := task.severity
  effective := task.severity
  exitStatus := some shown.exitStatus
  succeeded := true
  stdout := shown.stdout
  stderr := shown.stderr
  seconds := seconds
  failureKind := none
  reason := none
  error := none
  stdoutPath := some request.stdoutPath
  stderrPath := some request.stderrPath
  details := none

/-- The same outcome as a failure. -/
def failed (o : Outcome) (kind : FailureKind) (severity : Severity) (reason error : String) :
    Outcome :=
  { o with
    effective := severity, succeeded := false, failureKind := some kind, reason := some reason,
    error := some error }

/-- The outcome of a process that ran. A reached time limit comes first, then an interruption, then
the exit status. -/
def ofResult (task : Task) (request : Request) (previewBytes : Int) (result : ProcessResult)
    (seconds : Float) : Except Fault Outcome :=
  let shown := { result with
    stdout := preview previewBytes result.stdout, stderr := preview previewBytes result.stderr }
  let base := ofSuccess task request shown seconds
  if result.timedOut then
    match request.timeLimit with
    | none => .error .noLimit
    | some limit =>
      .ok (base.failed .timeout .blocking "timeout" s!"Timed out after {generalText limit}s")
  else if result.interrupted then
    .ok (base.failed .interrupted .blocking "interrupted" "Interrupted by shutdown request")
  else if result.exitStatus = 0 then .ok base
  else
    let diagnosis := Diagnosis.ofOutput task.stage result.exitStatus
      (Text.decodeLossy result.stdout) (Text.decodeLossy result.stderr)
    .ok { base.failed .exitStatus task.severity diagnosis.code
            s!"Exited with status {result.exitStatus}" with
          details := some (diagnosis.details FailureKind.exitStatus.name) }

end Outcome

end Greenlight
