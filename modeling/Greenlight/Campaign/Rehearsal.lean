import Greenlight.Campaign

/-! # Rehearsals

A rehearsal runs no processes: a list of rules says what becomes of each command. The first rule whose
needle occurs in the command counts; without one the command succeeds and repeats itself. -/

namespace Greenlight

/-- What becomes of the commands that a needle occurs in. -/
structure Rehearsal.Rule where
  needle : String
  exitStatus : Int
  stdout : List UInt8
  stderr : List UInt8
  timedOut : Bool
  interrupted : Bool
  /-- The seconds that the command takes. -/
  seconds : Float
  /-- The command cannot be started, for this cause. -/
  startFailure : Option String
  /-- A stop is requested while the command runs, with this reason. -/
  stop : Option String
  /-- A signal comes in while the command runs. -/
  signal : Option String

namespace Rehearsal

/-- The answer that a rule gives. -/
def Rule.answer (rule : Rule) : Answer :=
  match rule.startFailure with
  | some cause => .notStarted cause
  | none =>
    .finished ⟨rule.exitStatus, rule.stdout, rule.stderr, rule.timedOut, rule.interrupted⟩

/-- What happens while a command runs. Signals are stop requests if the campaign handles them. -/
def event (rules : List Rule) (handlesSignals : Bool) (request : Request) : RunEvent :=
  let command := Text.join " " request.command
  match rules.find? fun rule => Text.contains command rule.needle with
  | some rule =>
    { stops := rule.stop.toList ++ if handlesSignals then rule.signal.toList else []
      seconds := rule.seconds
      answer := rule.answer }
  | none =>
    { stops := [], seconds := 0
      answer := .finished ⟨0, Text.encode s!"ok: {command}\n", [], false, false⟩ }

/-- Surroundings that leave the world as it is. -/
def surroundings {σ : Type} (rules : List Rule) (handlesSignals : Bool)
    (stopsAfter : Option (List (String × String))) : Surroundings σ where
  run world request := (event rules handlesSignals request, world)
  observe := stopsAfter.map fun reasons world task _ =>
    (⟨(Entries.get? reasons task.id).toList, none⟩, world)

end Rehearsal

end Greenlight
