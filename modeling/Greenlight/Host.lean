import Greenlight.Campaign
import Greenlight.Host.Shell
import Greenlight.Process.Runner

/-! # The host

Commands run on a machine of its own: a file tree with a few programs, a clock that only processes and
looks at them move, and a watch that looks at a process at equal intervals. -/

namespace Greenlight.Host

/-- What no process can be started with. -/
def defect? (request : Request) : Option Fault :=
  let texts := request.folder.text :: request.command ++
    request.environment.flatMap fun (name, value) => [name, value]
  if request.command.isEmpty then some .commandAbsent
  else if request.environment.any fun (name, _) => name.toList.contains '=' then some .variableMisnamed
  else if texts.any fun s => !FileTree.isNameable s then some .unnameable
  else none

/-- The folder that a process starts in. -/
def startFolder (t : FileTree) (folder : Path) : Except FileProblem Position :=
  match t.find folder.text with
  | .ok (.found at_ .folder) => .ok at_
  | .ok (.found _ _) => .error .notFolder
  | .ok (.vacant _) => .error .missing
  | .error problem => .error problem

/-- What is said about a folder that no process can start in. -/
def folderMessage (folder : Path) (problem : FileProblem) : String :=
  s!"[Errno {problem.code}] {problem.words}: PosixPath({Text.quoted folder.text})"

/-! ## The watch -/

/-- The number of the first look at a time or after it. -/
def lookAt (interval time : Rat) : Nat := (time / interval).ceil.toNat

/-- The number of the look at which the watch of a process ends that never ends by itself, when a stop
is requested all the time or never. -/
def lastLook? (terms : Watch.Terms) (interval : Rat) (stop : Bool) : Option Nat :=
  let timeUp := terms.timeLimit.map (lookAt interval)
  let graceOver := if terms.watchesStop && stop then terms.grace.map (lookAt interval) else none
  match timeUp, graceOver with
  | some a, some b => some (min a b)
  | some a, none => some a
  | none, b => b

/-- The looks at a process that ends by itself at some time with an exit status, or never. -/
def looks (interval : Rat) (stop : Bool) (ended : Option (Rat × Int)) (index : Nat) : Watch.Look :=
  let time := interval * index
  ⟨ended.bind fun (end_, status) => if end_ ≤ time then some status else none, time, stop⟩

/-! ## Processes -/

/-- The number of the process that is started. -/
def firstNumber : Nat := 1000

/-- The number of steps that a process may take. -/
def maxSteps : Nat := 100000000

/-- The machine and the process at its start. -/
def initial (t : FileTree) (at_ : Position) (request : Request) (deadline : Option Rat) : State :=
  let log (path : Path) : Channel := match t.find path.text with
    | .ok (.found position _) => .file position 0 false
    | _ => .nowhere
  { world := {
      tree := t
      time := 0
      deadline := deadline
      asked := false
      channels := [.nowhere, log request.stdoutPath, log request.stderrPath]
      unwritten := []
      delayed := [] }
    process := {
      number := firstNumber
      name := request.command.headD ""
      arguments := []
      bindings := request.environment
      exported := request.environment.map (·.1)
      folder := at_
      opened := [(0, 0), (1, 1), (2, 2)]
      status := 0
      line := 1
      functions := []
      traps := []
      options := []
      caller := none
      pending := (0, [])
      constants := []
      locals := none
      depth := 0
      loops := 0
      taken := 0
      jobs := []
      deaf := false
      behind := none } }

/-- The time and the status with which a run ended by itself. -/
def endOf (result : Except Jump Unit) (s : State) : Option (Rat × Int) :=
  match result with
  | .ok () => some (s.world.time, s.process.status)
  | .error (.ended status) | .error (.returned status) | .error (.failed status) =>
    some (s.world.time, status)
  | .error (.killed signal) => some (s.world.time, -(signal : Int))
  | .error .late => none
  | .error (.leaveLoops _) | .error (.nextRound _) => some (s.world.time, s.process.status)

/-- Signals reach every process, and one that is killed ends. -/
def reaction : Watch.Reaction := ⟨fun _ => true, fun signal => signal == .kill⟩

/-- Runs a process under its watch. -/
def watch (interval : Rat) (stop : Bool) (t : FileTree) (at_ : Position) (request : Request)
    (image : Image) : Option Watch.Finish × FileTree :=
  let terms := Watch.Terms.ofRequest 0 request
  let last := lastLook? terms interval stop
  let start := initial t at_ request (last.map fun n => interval * n)
  let (result, s) := (do elapse startTime; runImage maxSteps image : Run Unit).run start
  let ended := endOf result s
  let count := match ended, last with
    | some (time, _), _ => lookAt interval time
    | none, some n => n
    | none, none => 0
  let finish := terms.watch (looks interval stop ended) (fun _ => reaction) (count + 1)
  (finish.map (·.1), { (settle s.world).tree with here := t.here })

/-- Launches commands on the machine, with a watch that looks at equal intervals, when a stop is
requested all the time or never. -/
def launch (interval : Rat) (stop : Bool) : Runner.Launcher := fun t request =>
  match defect? request with
  | some fault => (.senseless fault, t)
  | none =>
    let t := install t
    match startFolder t request.folder with
    | .error problem => (.refused problem (folderMessage request.folder problem), t)
    | .ok at_ =>
      let searched := settingOf request.environment "PATH" defaultSearch
      match lookUp { t with here := at_ } searched request.command with
      | .error problem =>
        (.refused problem (FileError.message ⟨problem, request.command.headD ""⟩), t)
      | .ok image =>
        match watch interval stop t at_ request image with
        | (some finish, t) => (.watched finish, t)
        | (none, t) => (.senseless .noLimit, t)

/-- Seconds between two looks at a command of a campaign. -/
def interval : Rat := 1 / 10

/-- The host as the surroundings of a campaign that nobody stops. -/
def surroundings : Surroundings FileTree where
  run t request :=
    let (answer, t) := Runner.run (launch interval false) t request
    ({ stops := [], seconds := 0, answer }, t)
  observe := none

end Greenlight.Host
