import Greenlight.Campaign.Setup
import Greenlight.Report

/-! # Campaigns

A campaign runs a queue of tasks, one process at a time. A failure that blocks ends it; advisory
failures are recorded and passed over, unless the policy is strict. A stop request ends it before the
next task.

What lies outside is given as functions on a state `σ`: the runner of commands, and an observer of
outcomes. Both may request stops. The campaign keeps the trace of what it asked, showed and logged. -/

namespace Greenlight

/-- What happens while a command runs: stops requested, with their reasons, the seconds that pass, and
the runner's answer. -/
structure RunEvent where
  stops : List String
  seconds : Float
  answer : Answer

/-- What an observer does with an outcome: it may request stops, and it may fail. -/
structure Notice where
  stops : List String
  fault : Option Fault

/-- The world around a campaign. -/
structure Surroundings (σ : Type) where
  run : σ → Request → RunEvent × σ
  observe : Option (σ → Task → Outcome → Notice × σ)

/-- How failures are weighed. -/
structure Policy where
  /-- Advisory failures end the campaign like blocking ones. -/
  strictAdvisory : Bool
  /-- Advisory failures count against the verdict. -/
  advisoryFatal : Bool
deriving DecidableEq, Repr

/-- How grave a log line is. -/
inductive LogLevel where
  | debug
  | info
  | warning
  | error
deriving DecidableEq, Repr

/-- The name of a level. -/
def LogLevel.name : LogLevel → String
  | .debug => "DEBUG"
  | .info => "INFO"
  | .warning => "WARNING"
  | .error => "ERROR"

/-- A request, what happened while its command ran, and whether a stop was requested when the command
ended. -/
structure Asked where
  request : Request
  event : RunEvent
  stopRequested : Bool

/-- A campaign: its phase, its stop flag, the world and the clock, and the trace so far. -/
structure Campaign (σ : Type) where
  phase : Phase
  stopRequested : Bool
  world : σ
  clock : Float
  asked : List Asked
  seen : List (Task × Outcome)
  /-- What the observer did with the outcomes it saw, one by one. -/
  noticed : List Notice
  /-- The phase at each moment at which the runner or the observer was at work. -/
  phases : List Phase
  log : List (LogLevel × String)

namespace Campaign

variable {σ : Type}

/-- A campaign that has not started. -/
def idle (world : σ) : Campaign σ := ⟨.idle, false, world, 0, [], [], [], [], []⟩

/-- Adds a line to the log. -/
def note (c : Campaign σ) (level : LogLevel) (message : String) : Campaign σ :=
  { c with log := c.log ++ [(level, message)] }

/-- Requests a stop. Only the first request is logged. -/
def requestStop (c : Campaign σ) (reason : String) : Campaign σ :=
  let c :=
    if c.stopRequested then c
    else c.note .warning s!"Stop requested ({reason}); remaining tasks will not run"
  { c with stopRequested := true }

/-- Requests stops one after the other. -/
def requestStops (c : Campaign σ) (reasons : List String) : Campaign σ :=
  reasons.foldl requestStop c

/-- Besides the log, stop requests change the stop flag only. -/
theorem requestStops_eq (reasons : List String) (c : Campaign σ) :
    c.requestStops reasons =
      { c with
        stopRequested := c.stopRequested || !reasons.isEmpty
        log := (c.requestStops reasons).log } := by
  induction reasons generalizing c with
  | nil => simp [requestStops]
  | cons reason reasons ih =>
    have hfirst : c.requestStop reason =
        { c with stopRequested := true, log := (c.requestStop reason).log } := by
      unfold requestStop
      split <;> rfl
    change (c.requestStop reason).requestStops reasons = { c with
      stopRequested := c.stopRequested || !(reason :: reasons).isEmpty
      log := ((c.requestStop reason).requestStops reasons).log }
    rw [ih, hfirst]
    simp

@[simp] theorem stopRequested_requestStops (reasons : List String) (c : Campaign σ) :
    (c.requestStops reasons).stopRequested = true ↔ c.stopRequested = true ∨ reasons ≠ [] := by
  rw [requestStops_eq]
  simp

@[simp] theorem asked_requestStops (reasons : List String) (c : Campaign σ) :
    (c.requestStops reasons).asked = c.asked := by
  rw [requestStops_eq]

@[simp] theorem seen_requestStops (reasons : List String) (c : Campaign σ) :
    (c.requestStops reasons).seen = c.seen := by
  rw [requestStops_eq]

@[simp] theorem noticed_requestStops (reasons : List String) (c : Campaign σ) :
    (c.requestStops reasons).noticed = c.noticed := by
  rw [requestStops_eq]

@[simp] theorem phase_requestStops (reasons : List String) (c : Campaign σ) :
    (c.requestStops reasons).phase = c.phase := by
  rw [requestStops_eq]

@[simp] theorem phases_requestStops (reasons : List String) (c : Campaign σ) :
    (c.requestStops reasons).phases = c.phases := by
  rw [requestStops_eq]

/-- Lets the runner answer a request. -/
def ask (sur : Surroundings σ) (request : Request) (c : Campaign σ) : RunEvent × Campaign σ :=
  let (event, world) := sur.run c.world request
  let c := { c.requestStops event.stops with world }
  (event, { c with
    clock := c.clock + event.seconds
    asked := c.asked ++ [⟨request, event, c.stopRequested⟩]
    phases := c.phases ++ [c.phase] })

@[simp] theorem stopRequested_ask (sur : Surroundings σ) (request : Request) (c : Campaign σ) :
    (c.ask sur request).2.stopRequested = true ↔
      c.stopRequested = true ∨ (c.ask sur request).1.stops ≠ [] :=
  stopRequested_requestStops _ c

@[simp] theorem asked_ask (sur : Surroundings σ) (request : Request) (c : Campaign σ) :
    (c.ask sur request).2.asked = c.asked ++
      [⟨request, (c.ask sur request).1, (c.ask sur request).2.stopRequested⟩] :=
  congrArg (· ++ _) (asked_requestStops _ c)

@[simp] theorem seen_ask (sur : Surroundings σ) (request : Request) (c : Campaign σ) :
    (c.ask sur request).2.seen = c.seen :=
  seen_requestStops _ c

@[simp] theorem noticed_ask (sur : Surroundings σ) (request : Request) (c : Campaign σ) :
    (c.ask sur request).2.noticed = c.noticed :=
  noticed_requestStops _ c

/-- What the execution of a task comes to once the runner has answered. -/
def judge (setup : Setup) (task : Task) (request : Request) (seconds : Float) :
    Answer → Except Fault Outcome
  | .notStarted cause => .error (.notExecuted task.id cause)
  | .broke fault => .error fault
  | .finished result => Outcome.ofResult task request setup.previewBytes result seconds

/-- Executes a task: its outcome, or the fault that kept its process from starting or broke it off. -/
def execute (setup : Setup) (sur : Surroundings σ) (task : Task) (sequence : Option Int)
    (watchesStop : Bool) (c : Campaign σ) : Except Fault Outcome × Campaign σ :=
  match task.commandTexts with
  | .error fault => (.error fault, c)
  | .ok command =>
    let c := c.note .debug (s!"Running {task.id}: " ++ Text.join " " command)
    let request := setup.request task command sequence watchesStop
    let (event, after) := c.ask sur request
    (judge setup task request (after.clock - c.clock) event.answer, after)

/-- Under a strict policy an advisory failure blocks. -/
def weigh (policy : Policy) (o : Outcome) : Outcome :=
  if o.isAdvisoryFailure && policy.strictAdvisory then o.escalate else o

/-- Executes the task at a place of the queue. A process that could not be started is an outcome. -/
def runTask (setup : Setup) (sur : Surroundings σ) (policy : Policy) (sequence : Nat) (task : Task)
    (c : Campaign σ) : Except Fault Outcome × Campaign σ :=
  let c := c.note .info s!"Task {task.id} started: {task.description}"
  match c.execute setup sur task (some sequence) true with
  | (.ok outcome, c) => (.ok (weigh policy outcome), c)
  | (.error (.notExecuted id cause), c) =>
    let message := (Fault.notExecuted id cause).message
    (.ok (Outcome.ofStartFailure task message), c.note .error message)
  | (.error fault, c) => (.error fault, c)

/-- Shows an outcome to the observer, if there is one. -/
def show_ (sur : Surroundings σ) (task : Task) (o : Outcome) (c : Campaign σ) :
    Option Fault × Campaign σ :=
  match sur.observe with
  | none => (none, c)
  | some observe =>
    let (notice, world) := observe c.world task o
    let c := { c.requestStops notice.stops with
      world
      seen := c.seen ++ [(task, o)]
      noticed := c.noticed ++ [notice]
      phases := c.phases ++ [c.phase] }
    (notice.fault, c)

/-- Logs the outcome of a task, with the number of tasks behind it. -/
def noteOutcome (task : Task) (o : Outcome) (remaining : Nat) (c : Campaign σ) : Campaign σ :=
  let reason := o.reason.getD "None"
  if o.succeeded then
    c.note .info s!"Task {task.id} passed in {fixedText 1 o.seconds}s"
  else if o.effective = .blocking then
    c.note .error
      s!"Blocking task {task.id} failed ({reason}); aborting {remaining} remaining task(s)"
  else c.note .warning s!"Advisory task {task.id} failed ({reason}); continuing"

theorem noteOutcome_eq_note (task : Task) (o : Outcome) (remaining : Nat) (c : Campaign σ) :
    ∃ level message, c.noteOutcome task o remaining = c.note level message := by
  unfold noteOutcome
  split
  · exact ⟨_, _, rfl⟩
  · split <;> exact ⟨_, _, rfl⟩

/-- How the run of a queue ended. -/
inductive Ending where
  | drained
  | stopped
  | blockedBy (id : String)
  | broke (fault : Fault)

/-- The run of a queue: how it ended, the outcomes in order, the tasks that did not run, and the
campaign after it. -/
structure QueueRun (σ : Type) where
  ending : Ending
  outcomes : List Outcome
  notRun : List Task
  campaign : Campaign σ

/-- Runs the tasks of a queue from a place on. -/
def runQueue (setup : Setup) (sur : Surroundings σ) (policy : Policy) (sequence : Nat) :
    List Task → Campaign σ → QueueRun σ
  | [], c => ⟨.drained, [], [], c⟩
  | task :: rest, c =>
    if c.stopRequested then ⟨.stopped, [], task :: rest, c⟩
    else
      match c.runTask setup sur policy sequence task with
      | (.error fault, c) => ⟨.broke fault, [], rest, c⟩
      | (.ok outcome, c) =>
        match c.show_ sur task outcome with
        | (some fault, c) => ⟨.broke fault, [outcome], rest, c⟩
        | (none, c) =>
          let c := c.noteOutcome task outcome rest.length
          if outcome.blocks then ⟨.blockedBy task.id, [outcome], rest, c⟩
          else
            let run := runQueue setup sur policy (sequence + 1) rest c
            { run with outcomes := outcome :: run.outcomes }

/-- The phase in which the run of a queue ends. -/
def Ending.phase : Ending → Phase
  | .drained => .completed
  | .stopped | .blockedBy _ => .aborted
  | .broke _ => .running

/-- The task that ended the run. -/
def Ending.blocker? : Ending → Option String
  | .blockedBy id => some id
  | _ => none

/-- A truth value in a log line. -/
def boolText (b : Bool) : String := if b then "True" else "False"

/-- The log line at the end of a campaign. -/
def endingLine (r : Report) : String :=
  s!"Pipeline {r.phase.name}: passed={boolText r.passed} executed={r.outcomes.length} " ++
    s!"not_run={r.notRun.length}"

/-- Runs a campaign that has not started: its report, or the fault that broke it off. -/
def run (setup : Setup) (sur : Surroundings σ) (policy : Policy) (tasks : List Task)
    (c : Campaign σ) : Except Fault Report × Campaign σ :=
  if c.phase ≠ .idle then (.error (.lifecycle (.alreadyRan c.phase.name)), c)
  else
    let started := c.clock
    let c := { c with phase := .running }.note .info s!"Pipeline started with {tasks.length} task(s)"
    let queue := c.runQueue setup sur policy 1 tasks
    let c := { queue.campaign with phase := queue.ending.phase }
    match queue.ending with
    | .broke fault => (.error fault, c)
    | ending =>
      let report := Report.conclude c.phase ending.blocker? (queue.notRun.map Task.id)
        policy.advisoryFatal c.stopRequested queue.outcomes (c.clock - started)
      (.ok report, c.note .info (endingLine report))

end Campaign

end Greenlight
