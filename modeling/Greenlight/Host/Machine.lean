import Greenlight.Entries
import Greenlight.FileTree
import Greenlight.Host.Script
import Greenlight.Text.Utf8

/-! # The machine under a script

Processes share a file tree, a clock and open channels. Time passes when a process starts, runs a
command or sleeps. At the deadline of the machine its processes are asked to end. -/

namespace Greenlight.Host

/-- Where a channel leads. -/
inductive Channel where
  | nowhere
  /-- A file; what is written goes to a place in it, or always to its end. -/
  | file (at_ : Position) (offset : Nat) (atEnd : Bool)
  /-- Bytes that a process leaves for another one. -/
  | buffer (bytes : List UInt8)
  /-- Zeros without end. -/
  | zeros

/-- Bytes that a process in the background writes, and when it does. -/
structure Delayed where
  time : Rat
  /-- The number of the process. -/
  job : Nat
  /-- The index of the channel. -/
  index : Nat
  bytes : List UInt8

/-- What all processes share. -/
structure World where
  tree : FileTree
  time : Rat
  deadline : Option Rat
  /-- Processes were asked to end already. -/
  asked : Bool
  channels : List Channel
  /-- What was written to which channel and has not reached its place yet, the last of it first. -/
  unwritten : List (Nat × List UInt8)
  delayed : List Delayed

/-- A process that runs in the background: its number and the time at which it ends. -/
structure Job where
  number : Nat
  ends : Rat
  status : Nat
  /-- The signal that another process ended it with. -/
  signal : Option Nat

/-- One process. -/
structure Process where
  number : Nat
  name : String
  arguments : List String
  bindings : List (String × String)
  exported : List String
  folder : Position
  /-- The channels by number. -/
  opened : List (Nat × Nat)
  status : Nat
  line : Nat
  functions : List (String × Command)
  /-- What to do about signals and at the end. -/
  traps : List (String × String)
  /-- The letters of the options that are set. -/
  options : List Char
  /-- The command of the shell that runs. -/
  caller : Option String
  /-- Letters of an argument that are still to be read as options, and the number of the argument behind
  it. -/
  pending : Nat × List Char
  /-- Variables that keep their values. -/
  constants : List String
  /-- In a function: the variables that it has for itself, with the values behind them. -/
  locals : Option (List (String × Option String))
  /-- The number of functions that are running. -/
  depth : Nat
  /-- The number of loops around the command that runs, in the function that runs. -/
  loops : Nat
  /-- The status of the last script whose output the command that runs has taken. -/
  taken : Nat
  jobs : List Job
  /-- The process goes on when it is asked to end. -/
  deaf : Bool
  /-- For a process in the background: its number as a job, and the index from which on channels are its
  own. -/
  behind : Option (Nat × Nat)

/-- Why the commands that follow are not run. -/
inductive Jump where
  | ended (status : Nat)
  /-- The shell gives up, unless one of its ordinary commands called for the step. -/
  | failed (status : Nat)
  | killed (signal : Nat)
  /-- The deadline is over. -/
  | late
  | leaveLoops (count : Nat)
  | nextRound (count : Nat)
  | returned (status : Nat)

/-- The world and the process that runs. -/
structure State where
  world : World
  process : Process

/-- A step of a process. -/
abbrev Run := ExceptT Jump (StateM State)

/-- Changes the process. -/
def changeProcess (f : Process → Process) : Run Unit :=
  modify fun s => { s with process := f s.process }

/-- Changes the world. -/
def changeWorld (f : World → World) : Run Unit := modify fun s => { s with world := f s.world }

/-- Sets the status of the last command. -/
def setStatus (status : Nat) : Run Unit := changeProcess fun p => { p with status := status }

/-! ## Channels -/

/-- The content of a file at a position. -/
def contentAt (t : FileTree) (at_ : Position) : List UInt8 :=
  match t.node? at_ with
  | some (.file content _) => content
  | _ => []

/-- Bytes written over a content from a place on; a gap is filled with zeros. -/
def overwrite (content : List UInt8) (offset : Nat) (bytes : List UInt8) : List UInt8 :=
  content.take offset ++ List.replicate (offset - content.length) 0 ++ bytes ++
    content.drop (offset + bytes.length)

/-- Replaces the content of a file at a position, if it is still there. -/
def setContent (t : FileTree) (at_ : Position) (content : List UInt8) : FileTree :=
  { t with entries := t.entries.map fun (position, node) =>
      match node with
      | .file old executable =>
        (position, .file (if position == at_ then content else old) executable)
      | node => (position, node) }

/-- Puts bytes where a channel of the world leads. -/
def deposit (index : Nat) (bytes : List UInt8) (w : World) : World :=
  match w.channels[index]? with
  | some (.file at_ offset atEnd) =>
    let content := contentAt w.tree at_
    let offset := if atEnd then content.length else offset
    { w with
      tree := setContent w.tree at_ (overwrite content offset bytes)
      channels := w.channels.set index (.file at_ (offset + bytes.length) atEnd) }
  | some (.buffer old) => { w with channels := w.channels.set index (.buffer (old ++ bytes)) }
  | _ => w

/-- Writes to a channel of the world. -/
def writeTo (index : Nat) (bytes : List UInt8) (w : World) : World :=
  { w with unwritten := (index, bytes) :: w.unwritten }

/-- The place in the file tree that a channel leads to. -/
def placeOf? (w : World) (index : Nat) : Option Position :=
  match w.channels[index]? with
  | some (.file at_ _ _) => some at_
  | _ => none

/-- Writes in order, those to one channel in one piece where no two channels lead to one place. -/
def gather (w : World) (writes : List (Nat × List UInt8)) : List (Nat × List UInt8) :=
  let indices := (writes.map (·.1)).eraseDups
  let places := indices.filterMap (placeOf? w)
  if places.eraseDups.length = places.length then
    indices.map fun index =>
      (index, ((writes.filter (·.1 == index)).map (·.2)).flatten)
  else writes

/-- Puts everything that was written in its place. -/
def settle (w : World) : World :=
  (gather w w.unwritten.reverse).foldl (fun w (index, bytes) => deposit index bytes w)
    { w with unwritten := [] }

/-- Reads up to a number of bytes from a channel of a settled world; all that is there without a
number. -/
def readFrom (index : Nat) (limit : Option Nat) (w : World) : List UInt8 × World :=
  let cut (bytes : List UInt8) : List UInt8 := match limit with
    | some n => bytes.take n
    | none => bytes
  match w.channels[index]? with
  | some (.file at_ offset atEnd) =>
    let bytes := cut ((contentAt w.tree at_).drop offset)
    (bytes, { w with channels := w.channels.set index (.file at_ (offset + bytes.length) atEnd) })
  | some (.buffer bytes) =>
    let found := cut bytes
    (found, { w with channels := w.channels.set index (.buffer (bytes.drop found.length)) })
  | some .zeros => (List.replicate (limit.getD 0) 0, w)
  | _ => ([], w)

/-! ## Files -/

/-- The file tree as the process sees it. -/
def viewTree : Run FileTree := do
  changeWorld settle
  let s ← get
  return { s.world.tree with here := s.process.folder }

/-- Keeps the entries of a changed file tree. -/
def keepTree (t : FileTree) : Run Unit :=
  changeWorld fun w => { w with tree := { w.tree with entries := t.entries } }

/-- Changes files, or gives the cause why not. -/
def changeTree (f : FileTree → Except FileError FileTree) : Run (Option FileProblem) := do
  match f (← viewTree) with
  | .ok t => keepTree t; return none
  | .error e => return some e.problem

/-! ## Time -/

/-- Seconds that one command takes. -/
def commandTime : Rat := 1 / 100000

/-- Seconds that the start of a process takes. -/
def startTime : Rat := 1 / 1000

/-- Seconds between the request to end and the end of processes that go on. -/
def mercy : Rat := 2

/-- Writes what processes in the background have written by now. -/
def deliver : Run Unit := do
  let s ← get
  if s.process.behind.isNone then
    let (due, rest) := s.world.delayed.partition fun d => decide (d.time ≤ s.world.time)
    changeWorld fun w =>
      (due.mergeSort fun a b => decide (a.time ≤ b.time)).foldl (fun w d => writeTo d.index d.bytes w)
        { w with delayed := rest }

/-- Lets time pass, up to the deadline. -/
def elapse (seconds : Rat) : Run Unit := do
  advance seconds
  deliver
where
  /-- Sets the clock. -/
  advance (seconds : Rat) : Run Unit := do
    let s ← get
    let now := s.world.time + seconds
    match s.world.deadline with
    | none => changeWorld fun w => { w with time := now }
    | some deadline =>
      if now ≤ deadline then changeWorld fun w => { w with time := now }
      else if s.process.deaf && !s.world.asked then
        let last := deadline + mercy
        changeWorld fun w => { w with
          asked := true, deadline := some last, time := if now ≤ last then now else last }
        if last < now then throw .late
      else
        changeWorld fun w => { w with time := deadline }
        throw .late

/-! ## Channels of a process -/

/-- Opens a channel of the world and gives its index. -/
def openChannel (channel : Channel) : Run Nat := do
  let w := (← get).world
  changeWorld fun w => { w with channels := w.channels ++ [channel] }
  return w.channels.length

/-- The index behind a channel number of the process. -/
def channelIndex? (number : Nat) : Run (Option Nat) :=
  return ((← get).process.opened.find? (·.1 == number)).map (·.2)

/-- Lets a channel number lead to an index, or to nothing. -/
def setChannel (number : Nat) (index : Option Nat) : Run Unit :=
  changeProcess fun p => { p with
    opened := (index.map fun i => (number, i)).toList ++ p.opened.filter (·.1 != number) }

/-- Writes to a channel of the process. A process in the background writes later to channels that are
not its own. -/
def emit (number : Nat) (bytes : List UInt8) : Run Unit := do
  match ← channelIndex? number with
  | some index =>
    let s ← get
    match s.process.behind with
    | some (job, own) =>
      if index < own then
        changeWorld fun w => { w with delayed := w.delayed ++ [⟨w.time, job, index, bytes⟩] }
      else changeWorld (writeTo index bytes)
    | none => changeWorld (writeTo index bytes)
  | none => return

/-- Writes a text to a channel of the process. -/
def emitText (number : Nat) (s : String) : Run Unit := emit number (Text.encode s)

/-- Reads from a channel of the process. -/
def receive (number : Nat) (limit : Option Nat) : Run (List UInt8) := do
  match ← channelIndex? number with
  | some index =>
    let (bytes, w) := readFrom index limit (settle (← get).world)
    changeWorld fun _ => w
    return bytes
  | none => return []

/-- Files that are always there. -/
def device? (path : String) : Option Channel :=
  if path = "/dev/null" then some .nowhere else if path = "/dev/zero" then some .zeros else none

/-- Opens a file for a redirection: its channel, or the cause why not. Files that are there stay as they
are if `keeping` is set. -/
def openFile (keeping : Bool) (kind : RedirKind) (path : String) :
    Run (Except FileProblem Channel) := do
  match device? path with
  | some channel => return .ok channel
  | none =>
    let t ← viewTree
    match kind with
    | .read =>
      match t.find path with
      | .ok (.found at_ (.file _ _)) => return .ok (.file at_ 0 false)
      | .ok (.found _ _) => return .ok .nowhere
      | .ok (.vacant _) => return .error .missing
      | .error problem => return .error problem
    | _ =>
      if keeping && kind = .write && t.isFile path then return .error .exists
      let change := if kind = .append || kind = .update then t.append path [] else t.write path []
      match change with
      | .error e => return .error e.problem
      | .ok t =>
        keepTree t
        match t.find path with
        | .ok (.found at_ _) => return .ok (.file at_ 0 (kind = .append))
        | _ => return .error .missing

/-! ## Variables -/

/-- Gives a variable a value. -/
def assign (name value : String) : Run Unit :=
  changeProcess fun p => { p with
    bindings := Entries.put name value p.bindings }

/-- The environment for the processes that this one starts. -/
def environmentOf (p : Process) : List (String × String) :=
  p.bindings.filter fun (name, _) => p.exported.contains name

end Greenlight.Host
