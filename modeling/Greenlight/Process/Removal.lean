/-! # Removing a process

A process that is to end gets up to two signals, sent to its whole group. Each is followed by a wait of two
seconds at most. Where a signal does not reach the group nothing more is done; where the process has ended,
what is left of the group is killed. -/

namespace Greenlight.Watch

/-- The signals, in their order. -/
inductive Signal where
  /-- Asks the processes to end. -/
  | terminate
  | kill
deriving DecidableEq, Repr

/-- What the signals do to a process. -/
structure Reaction where
  /-- The signal reaches the group of the process. -/
  takes : Signal → Bool
  /-- The process has ended when the wait after the signal is over. -/
  ends : Signal → Bool

/-- What the removal of a process comes to. -/
inductive Removal where
  /-- A signal did not reach the group. -/
  | unreached (signal : Signal)
  /-- The process ended after a signal. -/
  | ended (signal : Signal)
  /-- The process was killed, and is still there. -/
  | outlived
deriving DecidableEq, Repr

namespace Reaction

/-- One signal and the wait after it. -/
def send (reaction : Reaction) (signal : Signal) (still : Removal) : Removal :=
  if reaction.takes signal then if reaction.ends signal then .ended signal else still
  else .unreached signal

/-- What becomes of a process that is asked to end, and killed if it is still there after the wait. -/
def removal (reaction : Reaction) : Removal :=
  reaction.send .terminate (reaction.send .kill .outlived)

end Reaction

end Greenlight.Watch
