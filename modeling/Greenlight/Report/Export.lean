import Greenlight.Report
import Greenlight.Json.Writer
import Greenlight.FileTree

/-! # Exported reports

The report as a JSON object, with durations rounded to milliseconds. -/

namespace Greenlight.Report

/-- Seconds rounded to milliseconds. -/
def secondsJson (seconds : Float) : Json := .real (Decimal.ofFloat (roundFloat seconds 3))

/-- A path or `null`. -/
def pathJson (path : Option Path) : Json := Json.ofText? (path.map Path.text)

/-- Details of a failure; empty ones are left out. -/
def detailsJson : Option (List (String × Json)) → Json
  | none | some [] => .null
  | some details => .object details

/-- An outcome as a JSON object. -/
def outcomeJson (o : Outcome) : Json := .object [
  ("task_id", .text o.taskId),
  ("task_class", .text o.declared.name),
  ("effective_class", .text o.effective.name),
  ("succeeded", .bool o.succeeded),
  ("exit_status", (o.exitStatus.map Json.int).getD .null),
  ("duration_seconds", secondsJson o.seconds),
  ("failure_kind", Json.ofText? (o.failureKind.map FailureKind.name)),
  ("reason_code", Json.ofText? o.reason),
  ("error", Json.ofText? o.error),
  ("stdout_path", pathJson o.stdoutPath),
  ("stderr_path", pathJson o.stderrPath),
  ("failure_details", detailsJson o.details)]

/-- A report as a JSON object. -/
def toJson (r : Report) : Json := .object [
  ("state", .text r.phase.name),
  ("overall_passed", .bool r.passed),
  ("first_failure", Json.ofText? r.firstFailure),
  ("not_run", Json.ofTexts r.notRun),
  ("advisory_failures", Json.ofTexts r.advisoryFailures),
  ("interrupted", .bool r.interrupted),
  ("duration_seconds", secondsJson r.seconds),
  ("exit_code", .int r.exitCode.number),
  ("outcomes", .list (r.outcomes.map outcomeJson))]

/-- The text of the exported report, ended by a line feed. -/
def exported (r : Report) : String := r.toJson.write ++ "\n"

/-- Writes the exported report, with the folders above it. -/
def writeTo (r : Report) (path : Path) (t : FileTree) : Except Fault FileTree :=
  if !FileTree.isNameable path.text then .error .unnameable
  else
    (do
      let t ← t.makeFolders path.parent
      t.write path.text (Text.encode r.exported)).mapError .file

end Greenlight.Report
