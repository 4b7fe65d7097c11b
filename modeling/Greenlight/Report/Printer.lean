import Greenlight.Report
import Greenlight.Text.Blank
import Greenlight.Text.Lines

/-! # Printed reports

The lines that a person reads: one for each outcome, with the cause, the log files and the end of the
output below a failed one, and the verdict last. -/

namespace Greenlight.Report

/-- The number of lines shown of an output. -/
def tailLines : Nat := 40

/-- The last items of a list, at most `n` of them. -/
def lastItems {α : Type} (n : Nat) (xs : List α) : List α := xs.drop (xs.length - n)

/-- The end of an output: a header and its last lines, or nothing if the output is blank. -/
def outputTail (label : String) (bytes : List UInt8) : List String :=
  let text := Text.stripEndChars (Text.decodeLossy bytes)
  if text.isEmpty then []
  else
    let tail := lastItems tailLines (Text.lines text)
    s!"      --- {label} (last {tail.length} line(s)) ---" ::
      tail.map fun line => "      " ++ String.ofList line

/-- The severity of an outcome, with the one it was raised to. -/
def severityText (o : Outcome) : String :=
  if o.isEscalated then s!"{o.declared.name}->{o.effective.name}" else o.declared.name

/-- A text that may be absent. -/
def optionText : Option String → String
  | some s => s
  | none => "None"

/-- The line of an outcome. -/
def outcomeLine (o : Outcome) : String :=
  let status := if o.succeeded then "PASS" else "FAIL"
  let line := s!"[{status}] {o.taskId} ({severityText o}) {fixedText 1 o.seconds}s"
  if o.succeeded then line
  else
    let exit := (o.exitStatus.map toString).getD "-"
    s!"{line} exit={exit} reason={optionText o.reason}"

/-- The cause of a failure, if there is one to show. -/
def errorLines (o : Outcome) : List String :=
  match o.error with
  | some e => if e.isEmpty then [] else [s!"      error: {e}"]
  | none => []

/-- The log files of an outcome. -/
def logLines (o : Outcome) : List String :=
  match o.stderrPath with
  | some path => [s!"      logs: {optionText (o.stdoutPath.map Path.text)} {path.text}"]
  | none => []

/-- The lines below the line of an outcome. -/
def failureLines (showOutput : Bool) (o : Outcome) : List String :=
  if o.succeeded then []
  else
    errorLines o ++ logLines o ++
      if showOutput then outputTail "stdout" o.stdout ++ outputTail "stderr" o.stderr else []

/-- All lines of an outcome. -/
def outcomeLines (showOutput : Bool) (o : Outcome) : List String :=
  ("  " ++ outcomeLine o) :: failureLines showOutput o

/-- The last line. -/
def verdictLine (r : Report) : String :=
  "Release check status: " ++ if r.passed then "passed" else "failed"

/-- The lines after those of the outcomes. -/
def summaryLines (r : Report) : List String :=
  (if r.notRun.isEmpty then []
   else [s!"Not run ({r.notRun.length}): " ++ Text.join ", " r.notRun]) ++
  (if r.advisoryFailures.isEmpty then []
   else ["Advisory failures: " ++ Text.join ", " r.advisoryFailures]) ++
  (if r.interrupted then ["Run was interrupted."] else []) ++
  [s!"Pipeline state: {r.phase.name} " ++
    s!"(executed={r.outcomes.length} duration={fixedText 1 r.seconds}s)"] ++
  (match r.firstFailure with
   | some id => [s!"First failure: {id}"]
   | none => []) ++
  [verdictLine r]

/-- The printed report. -/
def lines (r : Report) (showOutput : Bool) : List String :=
  "Release check report:" :: r.outcomes.flatMap (outcomeLines showOutput) ++ summaryLines r

end Greenlight.Report
