import Greenlight.Process.Watch

/-! # Running a command

The runner makes the folders of the two log files, opens the files, has the command launched, and reads
the ends of the files when the command is over. How a command is launched is left open. -/

namespace Greenlight.Runner

/-- What becomes of a command that is to be launched. -/
inductive Launched where
  /-- The system refuses to start it. -/
  | refused (problem : FileProblem) (message : String)
  /-- The request makes no sense to the system. -/
  | senseless (fault : Fault)
  /-- It ran, and its watch was left. -/
  | watched (finish : Watch.Finish)

/-- Something that launches commands, with the log files open, and changes files. -/
abbrev Launcher := FileTree → Request → Launched × FileTree

/-- Why a command was not started, from a cause with its message. -/
def startFailure (request : Request) (problem : FileProblem) (message : String) : String :=
  let head := request.command.headD ""
  match problem with
  | .missing => s!"Command not found: {head}"
  | .denied => s!"Command is not executable: {head}"
  | _ => s!"Command failed to start: {message}"

/-- Makes the folder of a log file. -/
def makeLogFolder (t : FileTree) (path : Path) : Except Fault FileTree :=
  if FileTree.isNameable path.parent.text then (t.makeFolders path.parent).mapError .file
  else .error .unnameable

/-- Empties a log file, or makes it. -/
def openLog (t : FileTree) (path : Path) : Except Fault FileTree :=
  if FileTree.isNameable path.text then (t.write path.text []).mapError .file
  else .error .unnameable

/-- The end of a log file. -/
def readLog (t : FileTree) (path : Path) (limit : Option Int) : List UInt8 :=
  match t.read path.text, limit with
  | .ok bytes, none => bytes
  | .ok bytes, some n => tail n.toNat bytes
  | .error _, _ => []

/-- Why a log file that could not be opened kept the command from starting. -/
def logAnswer (request : Request) : Fault → Answer
  | .file e => .notStarted (startFailure request e.problem e.message)
  | fault => .broke fault

/-- Launches a command whose log files are open. -/
def launch (launcher : Launcher) (t : FileTree) (request : Request) : Answer × FileTree :=
  match launcher t request with
  | (.refused problem message, t) => (.notStarted (startFailure request problem message), t)
  | (.senseless fault, t) => (.broke fault, t)
  | (.watched .outlived, t) => (.broke (.outlived request.command), t)
  | (.watched (.returns ending), t) =>
    let stdout := readLog t request.stdoutPath request.limit
    let stderr := readLog t request.stderrPath request.limit
    (.finished (ending.result stdout stderr), t)

/-- Runs a request. -/
def run (launcher : Launcher) (t : FileTree) (request : Request) : Answer × FileTree :=
  match makeLogFolder t request.stdoutPath with
  | .error fault => (.broke fault, t)
  | .ok t =>
    match makeLogFolder t request.stderrPath with
    | .error fault => (.broke fault, t)
    | .ok t =>
      match openLog t request.stdoutPath with
      | .error fault => (logAnswer request fault, t)
      | .ok t =>
        match openLog t request.stderrPath with
        | .error fault => (logAnswer request fault, t)
        | .ok t => launch launcher t request

end Greenlight.Runner
