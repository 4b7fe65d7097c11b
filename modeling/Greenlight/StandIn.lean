import Greenlight.Settings

/-! # The stand-in for the toolchain

A tool that repeats its arguments, for rehearsals. Its environment says for which arguments it fails,
for which it waits first, and where it leaves a trace. -/

namespace Greenlight.StandIn

/-- What calls leave behind: files, output, and the seconds that were waited. -/
structure Trace where
  tree : FileTree
  stdout : String
  stderr : String
  waits : List Float

/-- The parts of a setting between commas, stripped; blank ones are left out. -/
def parts (raw : String) : List String :=
  ((Text.pieces ',' raw).map Text.strip).filter (!·.isEmpty)

/-- The exit code of a call that fails. -/
def failure : Nat := 101

/-- A setting of the stand-in. -/
def setting (env : Environment) (name : String) : String := (env.valueOf? ("ECHO_" ++ name)).getD ""

/-- The needle of a wait and its seconds, with the last equals sign between them. -/
def waitParts? (part : String) : Option (String × String) :=
  match Text.cutAtLast '=' part.toList with
  | some (needle, seconds) =>
    if needle.isEmpty then none else some (String.ofList needle, String.ofList seconds)
  | none => none

/-- Leaves a line in the trace file, if there is one. -/
def leaveTrace (env : Environment) (line : String) (trace : Trace) : Except Fault Trace :=
  let path := setting env "TRACE"
  if path.isEmpty then .ok trace
  else
    (trace.tree.append (Path.ofText path).text (Text.encode (line ++ "\n"))).map
      (fun tree => { trace with tree := tree }) |>.mapError .file

/-- Waits as often as needles of waits occur in the arguments; waits before a malformed one count. -/
def wait (joined : String) : List String → Trace → Except Fault Unit × Trace
  | [], trace => (.ok (), trace)
  | part :: rest, trace =>
    match waitParts? part with
    | none => wait joined rest trace
    | some (needle, seconds) =>
      if Text.contains joined needle then
        match (Datum.text seconds).toFloat with
        | .ok x => wait joined rest { trace with waits := trace.waits ++ [x] }
        | .error e => (.error (.number e), trace)
      else wait joined rest trace

/-- Repeats the arguments, and fails if a needle of failures occurs in them. -/
def echo (env : Environment) (joined : String) (trace : Trace) : Nat × Trace :=
  let trace := { trace with stdout := trace.stdout ++ s!"echo: {joined}\n" }
  match (parts (setting env "FAIL_ON")).find? (Text.contains joined) with
  | none => (0, trace)
  | some needle =>
    (failure,
      { trace with stderr := trace.stderr ++ s!"error: could not compile `crate` ({needle})\n" })

/-- One call: its exit code, or the fault that broke it off, and what it leaves. -/
def call (env : Environment) (arguments : List String) (trace : Trace) : Except Fault Nat × Trace :=
  let joined := Text.join " " arguments
  match leaveTrace env joined trace with
  | .error fault => (.error fault, trace)
  | .ok trace =>
    match wait joined (parts (setting env "SLEEP_ON")) trace with
    | (.error fault, trace) => (.error fault, trace)
    | (.ok (), trace) =>
      let (code, trace) := echo env joined trace
      (.ok code, trace)

end Greenlight.StandIn
