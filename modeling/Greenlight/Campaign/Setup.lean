import Greenlight.Entries
import Greenlight.Outcome
import Greenlight.Text.Pieces

/-! # The setup of a campaign

What all requests of a campaign have in common, and how the request of one task is made from it. -/

namespace Greenlight

/-- Time limits: one for each of some stages, and one for all others. -/
structure TimeLimits where
  default : Option Float
  perStage : List (Stage × Float)

/-- The time limit of a stage. -/
def TimeLimits.of (limits : TimeLimits) (stage : Stage) : Option Float :=
  match limits.perStage.find? (·.1 == stage) with
  | some (_, seconds) => some seconds
  | none => limits.default

theorem TimeLimits.of_eq_lookup (limits : TimeLimits) (stage : Stage) :
    limits.of stage = (limits.perStage.lookup stage).or limits.default := by
  obtain ⟨default, perStage⟩ := limits
  induction perStage with
  | nil => rfl
  | cons entry rest ih =>
    obtain ⟨other, seconds⟩ := entry
    by_cases h : other = stage
    · subst h
      simp [of]
    · have hb : (stage == other) = false := beq_false_of_ne (Ne.symm h)
      simpa [of, List.lookup_cons, h, hb] using ih

/-- What the requests of a campaign have in common. -/
structure Setup where
  folder : Path
  logFolder : Path
  limits : TimeLimits
  previewBytes : Int
  grace : Float
  environment : List (String × String)

namespace Setup

/-- Characters that a file name keeps. -/
def isPlain (c : Char) : Bool :=
  c.isAlphanum || c == '.' || c == '_' || c == '+' || c == '-'

/-- A name with each row of other characters replaced by one underscore; `replacing` tells that the
character in front was one of them. -/
def plainNameFrom (replacing : Bool) : List Char → List Char
  | [] => []
  | c :: rest =>
    if isPlain c then c :: plainNameFrom false rest
    else if replacing then plainNameFrom true rest
    else '_' :: plainNameFrom true rest

/-- A name for a file, made from any text. -/
def plainName (s : String) : String := String.ofList (plainNameFrom false s.toList)

/-- The start of the names of a task's log files, with the place of the task in the queue. -/
def logStem (sequence : Option Int) (id : String) : String :=
  match sequence with
  | none => plainName id
  | some n => Text.paddedInt 2 n ++ "-" ++ plainName id

/-- The request of a task whose command is given as texts; its own variables win over those of the
campaign. -/
def request (setup : Setup) (task : Task) (command : List String) (sequence : Option Int)
    (watchesStop : Bool) : Request :=
  let stem := logStem sequence task.id
  { command
    environment := Entries.merge setup.environment task.environment
    folder := setup.folder
    timeLimit := setup.limits.of task.stage
    stdoutPath := setup.logFolder.child (stem ++ ".stdout.log")
    stderrPath := setup.logFolder.child (stem ++ ".stderr.log")
    grace := setup.grace
    limit := some setup.previewBytes
    watchesStop }

end Setup

end Greenlight
