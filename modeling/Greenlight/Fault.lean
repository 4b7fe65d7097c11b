import Greenlight.Settings.Error
import Greenlight.Discovery.Error
import Greenlight.Plan.Error
import Greenlight.Value
import Greenlight.Yaml.Error
import Greenlight.FileTree
import Greenlight.Text.Utf8
import Greenlight.Text.ShellWords

/-! # Faults

Everything that can go wrong before, during and after a campaign, and the category of each fault. The
category decides whether the gate reports a fault of the setup or lets it through. -/

namespace Greenlight

/-- Misuse of something that can be used once. -/
inductive LifecycleError where
  /-- The campaign is past its start; its phase is given by name. -/
  | alreadyRan (phase : String)
  | alreadyFinal
deriving DecidableEq, Repr

/-- The misuse in words. -/
def LifecycleError.message : LifecycleError → String
  | .alreadyRan phase => s!"Pipeline already ran (state={phase})."
  | .alreadyFinal => "Report is already finalized."

/-- What went wrong. -/
inductive Fault where
  | settings (e : SettingsError)
  | discovery (e : DiscoveryError)
  | expansion (e : ExpansionError)
  | lifecycle (e : LifecycleError)
  | number (e : NumberError)
  | yaml (e : Yaml.ReadError)
  | encoding (e : Text.EncodingError)
  | words (e : Text.ShellWords.Defect)
  | file (e : FileError)
  /-- A path with the character zero. -/
  | unnameable
  /-- A path that is no text. -/
  | pathNotText
  | stageUnknown (name : String)
  | commandEmpty (id : String)
  /-- A process could not be started. -/
  | notStarted (cause : String)
  /-- A task could not be executed because its process could not be started. -/
  | notExecuted (id cause : String)
  /-- A process was still there two seconds after it was killed. -/
  | outlived (command : List String)
  /-- A time limit was reached that was never set. -/
  | noLimit
  /-- A command holds a part that is no text. -/
  | argumentNotText
  /-- A process was to be started without a command. -/
  | commandAbsent
  /-- A variable for a process has a name that holds an equals sign. -/
  | variableMisnamed

namespace Fault

/-- Kinds of faults. -/
inductive Category where
  | badValue
  | badEncoding
  | outOfRange
  | discovery
  | expansion
  | execution
  | start
  | outlived
  | lifecycle
  | file (problem : FileProblem)
  | wrongType
  | missingMember
  | missingIndex
  | missingKey
  | tooDeep
deriving DecidableEq, Repr

/-- The category of a number that cannot be read. -/
def numberCategory : NumberError → Category
  | .infiniteToInt | .beyondFloat => .outOfRange
  | .wrongType => .wrongType
  | _ => .badValue

/-- The category of a fault. -/
def category : Fault → Category
  | .settings _ => .badValue
  | .discovery _ => .discovery
  | .expansion _ => .expansion
  | .lifecycle _ => .lifecycle
  | .number e => numberCategory e
  | .yaml (.form _) => .badValue
  | .yaml (.encoding _) => .badEncoding
  | .yaml (.number e) => numberCategory e
  | .yaml (.calendar _) => .badValue
  | .yaml .unknownWord => .missingKey
  | .yaml .emptyNumber => .missingIndex
  | .yaml .noTimestamp => .missingMember
  | .yaml .timestampInMapping => .wrongType
  | .yaml .surrogate => .badEncoding
  | .yaml .beyondCodePoints => .badValue
  | .yaml .beyondCodes => .outOfRange
  | .yaml .tooDeep => .tooDeep
  | .encoding _ => .badEncoding
  | .words _ => .badValue
  | .file e => .file e.problem
  | .unnameable => .badValue
  | .pathNotText => .wrongType
  | .stageUnknown _ => .badValue
  | .commandEmpty _ => .badValue
  | .notStarted _ => .start
  | .notExecuted _ _ => .execution
  | .outlived _ => .outlived
  | .noLimit => .wrongType
  | .argumentNotText => .wrongType
  | .commandAbsent => .missingIndex
  | .variableMisnamed => .badValue

/-- A fault in words. -/
def message : Fault → String
  | .settings e => e.message
  | .discovery e => e.message
  | .expansion e => e.message
  | .lifecycle e => e.message
  | .number e => e.message
  | .yaml (.form _) => "malformed YAML"
  | .yaml (.encoding e) => e.message
  | .yaml (.number e) => e.message
  | .yaml (.calendar e) => e.message
  | .yaml .unknownWord => "unknown truth value"
  | .yaml .emptyNumber => "number without characters"
  | .yaml .noTimestamp => "no point in time"
  | .yaml .timestampInMapping => "a point in time must be a text"
  | .yaml .surrogate => "surrogates not allowed"
  | .yaml .beyondCodePoints => "chr() arg not in range(0x110000)"
  | .yaml .beyondCodes => "Python int too large to convert to C int"
  | .yaml .tooDeep => "maximum recursion depth exceeded"
  | .encoding e => e.message
  | .words e => e.message
  | .file e => e.message
  | .unnameable => "embedded null byte"
  | .pathNotText => "a path must be a text"
  | .stageUnknown name => s!"{Text.quoted name} is not a valid Stage"
  | .commandEmpty id => s!"Task {Text.quoted id} has an empty command."
  | .notStarted cause => cause
  | .notExecuted id cause => s!"Task {id} could not start: {cause}"
  | .outlived command => s!"Command '{Text.quotedList command}' timed out after 2 seconds"
  | .noLimit => "no time limit is set"
  | .argumentNotText => "a part of a command must be a text"
  | .commandAbsent => "a process needs a command"
  | .variableMisnamed => "illegal environment variable name"

end Fault

/-- A value as text, or the fault that it cannot be written. -/
def Value.written (v : Value) : Except Fault String := v.toText.mapError .number

/-- Fails with a fault that shows a value. -/
def Value.refuse {α : Type} (v : Value) (fault : String → Fault) : Except Fault α := do
  throw (fault (← v.shown.mapError .number))

/-- A task with a command that is not empty. -/
def Task.make (id : String) (command : List Arg) (severity : Severity) (description : String)
    (stage : Stage) (environment : List (String × String)) : Except Fault Task :=
  if command.isEmpty then .error (.commandEmpty id)
  else .ok ⟨id, command, severity, description, stage, environment⟩

/-- The command of a task as texts. -/
def Task.commandTexts (task : Task) : Except Fault (List String) :=
  (Arg.texts? task.command).elim (.error .argumentNotText) .ok

theorem Task.ofTexts_of_commandTexts {task : Task} {command : List String}
    (h : task.commandTexts = .ok command) : Arg.ofTexts command = task.command := by
  unfold Task.commandTexts at h
  cases ht : Arg.texts? task.command with
  | none => simp [ht] at h
  | some texts =>
    simp only [ht, Option.elim_some, Except.ok.injEq] at h
    exact h ▸ Arg.ofTexts_of_texts? ht

theorem Task.commandTexts_eq_error {task : Task} {fault : Fault} (h : task.commandTexts = .error fault) :
    fault = .argumentNotText := by
  unfold Task.commandTexts at h
  cases ht : Arg.texts? task.command with
  | none =>
    simp only [ht, Option.elim_none, Except.error.injEq] at h
    exact h.symm
  | some texts => simp [ht] at h

/-- The stage with a name, or the fault that there is none. -/
def Stage.ofName (name : String) : Except Fault Stage :=
  (Stage.ofName? name).elim (.error (.stageUnknown name)) .ok

end Greenlight
