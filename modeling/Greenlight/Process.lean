import Greenlight.Path
import Greenlight.Fault

/-! # Processes

What a runner of external commands is asked, and what it answers. -/

namespace Greenlight

/-- One command to run. -/
structure Request where
  command : List String
  environment : List (String × String)
  /-- The working directory of the command. -/
  folder : Path
  /-- Seconds until the command is stopped. -/
  timeLimit : Option Float
  stdoutPath : Path
  stderrPath : Path
  /-- Seconds that a command gets to end by itself once a stop is requested. -/
  grace : Float
  /-- The number of bytes kept of each output. -/
  limit : Option Int
  /-- The runner looks out for stop requests while the command runs. -/
  watchesStop : Bool

/-- What became of a command. -/
structure ProcessResult where
  exitStatus : Int
  stdout : List UInt8
  stderr : List UInt8
  timedOut : Bool
  interrupted : Bool
deriving DecidableEq, Repr

/-- The answer of a runner. -/
inductive Answer where
  | finished (result : ProcessResult)
  /-- The command could not be started. -/
  | notStarted (cause : String)
  /-- The runner itself failed. -/
  | broke (fault : Fault)

/-- The last bytes of an output, at most `limit` of them. -/
def tail (limit : Nat) (bytes : List UInt8) : List UInt8 := bytes.drop (bytes.length - limit)

/-- The part of an output that is shown: all of it if it is short enough, else what is left when it is
cut `limit` bytes before its end. A limit of zero cuts nothing, and a negative one cuts that many bytes
off the start. -/
def preview (limit : Int) (bytes : List UInt8) : List UInt8 :=
  if (bytes.length : Int) ≤ limit then bytes
  else if limit < 0 then bytes.drop limit.natAbs
  else if limit = 0 then bytes
  else tail limit.toNat bytes

end Greenlight
