import Greenlight.Process
import Greenlight.Process.Removal
import Greenlight.Decimal.Binary

/-! # Watching a command

A command that runs is looked at again and again. Each look finds out whether it has ended, reads the
clock and asks whether a stop is requested. The watch is over when the command has ended, when its time
is up, or when a stop was requested and the grace that begins with the first look at which it was heard
is over. A command that has not ended by then is removed, and a watch that cannot remove it returns
nothing. -/

namespace Greenlight.Watch

/-- One look at a running command. -/
structure Look where
  /-- The exit status of the command if it has ended. -/
  exited : Option Int
  /-- The clock, in seconds. -/
  time : Rat
  /-- A stop is requested. -/
  stop : Bool
deriving DecidableEq, Repr

/-- The terms of a watch. -/
structure Terms where
  start : Rat
  /-- Seconds from the start until the time is up, if it is limited. -/
  timeLimit : Option Rat
  /-- Seconds of grace, if it is limited. -/
  grace : Option Rat
  /-- Stop requests are heard. -/
  watchesStop : Bool
deriving DecidableEq, Repr

/-- How a watch ends. -/
inductive Ending where
  /-- The command has ended by itself, perhaps after a stop request. -/
  | exited (status : Int) (interrupted : Bool)
  | timedOut
  | stopped
deriving DecidableEq, Repr

/-- The process is signalled at the end of its watch. -/
def Ending.isSignalled : Ending → Bool
  | .exited _ _ => false
  | .timedOut | .stopped => true

/-- How a watch is left. -/
inductive Finish where
  | returns (ending : Ending)
  /-- The process that was signalled outlives being killed. -/
  | outlived
deriving DecidableEq, Repr

/-- How a watch is left at its end, by what the process makes of the signals that it may get then. -/
def Ending.finish (ending : Ending) (reaction : Reaction) : Finish :=
  if ending.isSignalled && reaction.removal == .outlived then .outlived else .returns ending

/-- What a look comes to: an end, or the next look. A watch that goes on knows when a stop was first
heard. -/
inductive Step where
  | ends (ending : Ending)
  | goesOn (heard : Option Rat)
deriving DecidableEq, Repr

namespace Terms

/-- A look hears a stop request. -/
def hears (terms : Terms) (look : Look) : Bool := terms.watchesStop && look.stop

/-- The time is up. -/
def isTimeUp (terms : Terms) (now : Rat) : Bool :=
  match terms.timeLimit with
  | some limit => decide (limit ≤ now - terms.start)
  | none => false

/-- The grace after a stop that was first heard at a time is over. -/
def isGraceOver (terms : Terms) (heard now : Rat) : Bool :=
  match terms.grace with
  | some grace => decide (heard + (if grace < 0 then 0 else grace) ≤ now)
  | none => false

/-- What one look comes to. An end that is found comes first, then the time limit, then the stop. -/
def step (terms : Terms) (heard : Option Rat) (look : Look) : Step :=
  match look.exited with
  | some status => .ends (.exited status (heard.isSome || (status != 0 && terms.hears look)))
  | none =>
    if terms.isTimeUp look.time then .ends .timedOut
    else if terms.hears look then
      let first := heard.getD look.time
      if terms.isGraceOver first look.time then .ends .stopped else .goesOn (some first)
    else .goesOn heard

/-- What a number of looks, from one of them on, come to: how the watch ends and at which look. -/
def follow (terms : Terms) (looks : Nat → Look) (heard : Option Rat) (index : Nat) :
    Nat → Option (Ending × Nat)
  | 0 => none
  | count + 1 =>
    match terms.step heard (looks index) with
    | .ends ending => some (ending, index)
    | .goesOn heard => follow terms looks heard (index + 1) count

/-- What the first looks come to. -/
def run (terms : Terms) (looks : Nat → Look) (count : Nat) : Option (Ending × Nat) :=
  terms.follow looks none 0 count

/-- How the first looks leave the watch, and which of them is the last: each comes with the reaction of the
process to being signalled then. -/
def watch (terms : Terms) (looks : Nat → Look) (reactions : Nat → Reaction) (count : Nat) :
    Option (Finish × Nat) :=
  (terms.run looks count).map fun (ending, last) => (ending.finish (reactions last), last)

end Terms

/-- The exit status of a command whose time is up. -/
def timeoutStatus : Int := 124

/-- The exit status of a command that was stopped. -/
def stoppedStatus : Int := 130

/-- The result of a command from the end of its watch and its output. -/
def Ending.result (ending : Ending) (stdout stderr : List UInt8) : ProcessResult :=
  match ending with
  | .exited status interrupted => ⟨status, stdout, stderr, false, interrupted⟩
  | .timedOut => ⟨timeoutStatus, stdout, stderr, true, false⟩
  | .stopped => ⟨stoppedStatus, stdout, stderr, false, true⟩

/-- A time limit in exact seconds. One that no time reaches is none, and one below all numbers is
reached at once. -/
def exactLimit (seconds : Float) : Option Rat :=
  match Decimal.Reading.ofFloat seconds with
  | .finite negative size => some (size.toRat negative)
  | .infinite true => some 0
  | _ => none

/-- Seconds of grace in exact numbers; what is no number is no grace. -/
def exactGrace (seconds : Float) : Option Rat :=
  match Decimal.Reading.ofFloat seconds with
  | .finite negative size => some (size.toRat negative)
  | .infinite false => none
  | _ => some 0

/-- The terms under which a request is watched from a time on. -/
def Terms.ofRequest (start : Rat) (request : Request) : Terms where
  start := start
  timeLimit := request.timeLimit.bind exactLimit
  grace := exactGrace request.grace
  watchesStop := request.watchesStop

end Greenlight.Watch
