import Greenlight.FlagSet
import Greenlight.Plan.FixedCheck

/-! # Plans

A plan is the queue of tasks of a campaign: one task for each example, one for each combination of
flags, and the fixed checks behind them. No two tasks have the same id. -/

namespace Greenlight.Plan

/-- The task that runs an example. -/
def exampleTask (t : Toolchain) (name : String) : Task where
  id := "example:" ++ name
  command := t.command (Arg.ofTexts ["run", "--release", "--all-features", "--example", name])
  severity := .blocking
  description := s!"run example {name} with all features"
  stage := .examples
  environment := []

/-- Arguments that choose flags. -/
def flagArgs (flags : FlagSet) : List String :=
  if flags.isEmpty then [] else ["-F", Text.join "," flags.names]

/-- The task that runs the tests with a combination of flags. -/
def testTask (t : Toolchain) (features : FeatureSet) : Task where
  id := "test:" ++ features.name
  command := t.command (Arg.ofTexts ("test" :: flagArgs features.flags))
  severity := .blocking
  description := "test suite with features: " ++ features.name
  stage := .tests
  environment := []

/-- The task of a fixed check; its id describes it if nothing else does. -/
def checkTask (check : FixedCheck) : Except Fault Task :=
  if check.command.isEmpty then .error (.expansion (.commandEmpty check.id))
  else .ok {
    id := check.id
    command := check.command
    severity := check.severity
    description := if check.description.isEmpty then check.id else check.description
    stage := check.stage
    environment := check.environment }

/-- The first id that occurs a second time; `seen` holds the ids before. -/
def firstRepeated (seen : List String) : List String → Option String
  | [] => none
  | id :: rest => if seen.contains id then some id else firstRepeated (id :: seen) rest

/-- The queue of tasks. -/
def expand (t : Toolchain) (examples : List String) (features : List FeatureSet)
    (checks : List FixedCheck) : Except Fault (List Task) := do
  let fixed ← checks.mapM checkTask
  let tasks := examples.map (exampleTask t) ++ features.map (testTask t) ++ fixed
  match firstRepeated [] (tasks.map Task.id) with
  | some id => .error (.expansion (.idRepeated id))
  | none => return tasks

/-- A number at the right end of a field. -/
def rightAligned (width n : Nat) : String :=
  let digits := Nat.repr n
  String.ofList (List.replicate (width - digits.length) ' ') ++ digits

/-- One line of a printed plan. -/
def line (number : Nat) (task : Task) : Except Fault String :=
  task.commandTexts.map fun command =>
    s!"  {rightAligned 2 number}. {task.id} [{task.severity.name}] {task.description}: " ++
      Text.join " " command

/-- The lines of tasks numbered from `number` on. -/
def linesFrom (number : Nat) : List Task → Except Fault (List String)
  | [] => .ok []
  | task :: rest => do
    let first ← line number task
    let others ← linesFrom (number + 1) rest
    return first :: others

/-- The printed plan. -/
def lines (tasks : List Task) : Except Fault (List String) :=
  (linesFrom 1 tasks).map (s!"Release plan ({tasks.length} task(s)):" :: ·)

end Greenlight.Plan
