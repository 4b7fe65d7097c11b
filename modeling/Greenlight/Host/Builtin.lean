import Greenlight.Host.Parameter
import Greenlight.Host.Programs
import Greenlight.Host.Signal

/-! # Builtin commands

Commands that the shell runs itself because they change it, and that run no other commands. -/

namespace Greenlight.Host

/-- A command of the shell. -/
abbrev Builtin := List String → Run Unit

/-- The start of a complaint of the shell: its name, the line, and the command of the shell that runs. -/
def complaintStart : Run String := do
  let p := (← get).process
  return s!"{p.name}: {p.line}: " ++ ((p.caller.map (· ++ ": ")).getD "")

/-- Writes a complaint of the shell and sets the status. -/
def shellComplains (message : String) (status : Nat) : Run Unit := do
  emitText 2 ((← complaintStart) ++ message ++ "\n")
  setStatus status

/-- Complains and gives up. -/
def shellFails {α : Type} (message : String) : Run α := do
  shellComplains message 2
  throw (.failed 2)

/-- Runs a step, and another one behind it in any case. -/
def inAnyCase (step behind : Run Unit) : Run Unit := do
  tryCatch step fun jump => do
    behind
    throw jump
  behind

/-- Runs a step on behalf of a command of the shell. -/
def calling (name : Option String) (step : Run Unit) : Run Unit := do
  let outer := (← get).process.caller
  changeProcess fun p => { p with caller := name }
  inAnyCase step (changeProcess fun p => { p with caller := outer })

/-- A number as an argument, from a least one on. -/
def numberArgument (least : Nat) (s : String) : Run Nat := do
  match Decimal.readPlainDigits? 10 s.toList with
  | some n => if n < least then shellFails s!"Illegal number: {s}" else return n
  | none => shellFails s!"Illegal number: {s}"

/-- The number among the arguments, or one for none. -/
def countArgument (least : Nat) (args : List String) : Run Nat :=
  match args with
  | [] => return 1
  | s :: _ => numberArgument least s

/-- Gives up on a text that is no name. -/
def demandName (name : String) : Run Unit := do
  if !isName name then shellFails s!"{name}: bad variable name"

/-! ## Jumps -/

/-- Ends the shell. -/
def exitBuiltin : Builtin := fun args => do
  match args with
  | [] => throw (.ended (← get).process.status)
  | s :: _ => throw (.ended ((← numberArgument 0 s) % 256))

/-- Leaves a function. -/
def returnBuiltin : Builtin := fun args => do
  match args with
  | [] => throw (.returned (← get).process.status)
  | s :: _ => throw (.returned ((← numberArgument 0 s) % 256))

/-- Jumps in the loops around, as many as there are at most. -/
def loopBuiltin (jump : Nat → Jump) : Builtin := fun args => do
  let count := min (← countArgument 1 args) (← get).process.loops
  if count = 0 then setStatus 0 else throw (jump count)

/-- Leaves loops. -/
def breakBuiltin : Builtin := loopBuiltin .leaveLoops

/-- Goes on with the next round of a loop. -/
def continueBuiltin : Builtin := loopBuiltin .nextRound

/-! ## The folder -/

/-- Moves to a folder: the one that is named, the one before for a hyphen, or that of the user. -/
def cdBuiltin : Builtin := fun args => do
  let p := (← get).process
  let args := args.filter fun arg => arg != "-L" && arg != "-P" && arg != "--"
  let target := args.headD ((paramValue p "HOME").getD "")
  let path := if target = "-" then (paramValue p "OLDPWD").getD (positionText p.folder) else target
  if path.isEmpty then setStatus 0
  else
    match (← viewTree).find path with
    | .ok (.found at_ .folder) =>
      if target = "-" then emitText 1 (positionText at_ ++ "\n")
      changeProcess fun p => { p with folder := at_, status := 0 }
      assign "OLDPWD" (positionText p.folder)
      assign "PWD" (positionText at_)
    | _ => shellComplains s!"can't cd to {path}" 2

/-- Shows the mask for new files. -/
def umaskBuiltin : Builtin := fun args => do
  if args.isEmpty then emitText 1 "0022\n"
  else if args = ["-S"] then emitText 1 "u=rwx,g=rx,o=rx\n"
  setStatus 0

/-! ## Variables -/

/-- Gives a variable a value, unless it keeps the one that it has. -/
def assignFree (name value : String) : Run Unit := do
  let p := (← get).process
  if p.constants.contains name then shellFails s!"{name}: is read only"
  assign name value
  if p.options.contains 'a' then
    changeProcess fun p => { p with exported := name :: p.exported }

/-- A text in single quotes, as the shell reads it back. -/
def singleQuoted (s : String) : String :=
  "'" ++ String.ofList (s.toList.flatMap fun c => if c = '\'' then "'\"'\"'".toList else [c]) ++ "'"

/-- Shows declarations of variables, by name. -/
def showDeclared (command : String) (names : List String) : Run Unit := do
  let p := (← get).process
  for name in Text.sort names.eraseDups do
    let value := ((Entries.get? p.bindings name).map fun s => "=" ++ singleQuoted s).getD ""
    emitText 1 s!"{command} {name}{value}\n"

/-- Sets the variables that are given with a value, and marks each. -/
def declareAll (args : List String) (mark : String → Process → Process) : Run Unit := do
  setStatus 0
  for arg in args do
    let (name, value) := splitSetting arg
    demandName name
    match value with
    | some s => assignFree name s
    | none => pure ()
    changeProcess (mark name)

/-- Gives a function variables of its own. -/
def localBuiltin : Builtin := fun args => do
  if (← get).process.locals.isNone then shellFails "not in a function"
  changeProcess fun p => { p with
    locals := p.locals.map fun found =>
      found ++ (valuesOf p (args.map fun arg => (splitSetting arg).1)).filter fun (name, _) =>
        !found.any (·.1 == name) }
  declareAll args fun _ p => p

/-- Hands variables on to the processes that the shell starts. -/
def exportBuiltin : Builtin := fun args => do
  let names := args.filter (· != "-p")
  if names.isEmpty then showDeclared "export" (← get).process.exported
  declareAll names fun name p => { p with exported := name :: p.exported }

/-- Lets variables keep their values. -/
def readonlyBuiltin : Builtin := fun args => do
  let names := args.filter (· != "-p")
  if names.isEmpty then showDeclared "readonly" (← get).process.constants
  declareAll names fun name p => { p with constants := name :: p.constants }

/-- Removes variables, or functions. -/
def unsetBuiltin : Builtin := fun args => do
  let names := args.filter fun arg => !(arg.startsWith "-")
  if args.contains "-f" then
    changeProcess fun p => { p with
      functions := p.functions.filter fun (name, _) => !names.contains name }
  else
    for name in names do
      demandName name
      if (← get).process.constants.contains name then shellFails s!"{name}: is read only"
      changeProcess fun p => { p with
        bindings := Entries.erase name p.bindings
        exported := p.exported.filter (· != name) }
  setStatus 0

/-- Reads a line that comes in, without its end, and whether it has one. A backslash at the end of a line
takes the next one too, if `escapes` is set. -/
def receiveLine (escapes : Bool) : Nat → List UInt8 → Run (List UInt8 × Bool)
  | 0, found => return (found, false)
  | fuel + 1, found => do
    match ← receive 0 (some 1) with
    | [] => return (found, false)
    | [10] => return (found, true)
    | [92] =>
      if escapes then
        match ← receive 0 (some 1) with
        | [10] => receiveLine escapes fuel found
        | behind => receiveLine escapes fuel (found ++ 92 :: behind)
      else receiveLine escapes fuel (found ++ [92])
    | b :: _ => receiveLine escapes fuel (found ++ [b])

/-- Reads a line into variables. -/
def readBuiltin : Builtin := fun args => do
  let options := args.takeWhile (·.startsWith "-")
  let escapes := !(options.any fun option => option.toList.contains 'r')
  let names := args.drop (options.length + if options.contains "-p" then 1 else 0)
  if names.isEmpty then shellFails "arg count"
  for name in names do
    demandName name
  let (bytes, ended) ← receiveLine escapes 1000000 []
  let line := markLine escapes (Text.decodeLossy bytes)
  for (name, value) in assignLine (separatorsOf (← get).process) names line do
    assignFree name value
  setStatus (if ended then 0 else 1)

/-! ## Options and arguments -/

/-- Options of the shell by name. -/
def optionNames : List (String × Char) := [
  ("errexit", 'e'), ("noglob", 'f'), ("ignoreeof", 'I'), ("interactive", 'i'), ("monitor", 'm'),
  ("noexec", 'n'), ("stdin", 's'), ("xtrace", 'x'), ("verbose", 'v'), ("vi", 'V'), ("emacs", 'E'),
  ("noclobber", 'C'), ("allexport", 'a'), ("notify", 'b'), ("nounset", 'u')]

/-- The letters of options. -/
def optionLetters : List Char := optionNames.map (·.2)

/-- Switches options on and off, from a row of arguments: the ones that are on, and the arguments behind
the options. Only letters that are known may stand there. -/
def readOptions (known on : List Char) : List String → Except String (List Char × List String)
  | [] => .ok (on, [])
  | arg :: rest =>
    match arg.toList with
    | sign :: 'o' :: [] =>
      match rest with
      | name :: rest =>
        match Entries.get? optionNames name with
        | some letter => readOptions known (switch sign [letter]) rest
        | none => .error s!"{sign}o {name}"
      | [] => .ok (on, [])
    | sign :: letter :: letters =>
      if (sign = '-' ∧ letter ≠ '-') ∨ sign = '+' then
        match (letter :: letters).find? fun c => !known.contains c with
        | some c => .error s!"{sign}{c}"
        | none => readOptions known (switch sign (letter :: letters)) rest
      else .ok (on, arg :: rest)
    | _ => .ok (on, arg :: rest)
where
  /-- Letters put on or taken off. -/
  switch (sign : Char) (letters : List Char) : List Char :=
    if sign = '-' then letters ++ on.filter (!letters.contains ·) else on.filter (!letters.contains ·)

/-- Switches options, and replaces the arguments of the shell. -/
def setBuiltin : Builtin := fun args => do
  match readOptions optionLetters (← get).process.options args with
  | .error option => shellFails s!"Illegal option {option}"
  | .ok (options, rest) =>
    changeProcess fun p => { p with
      options := options
      arguments := match rest with
        | "--" :: more => more
        | [] => p.arguments
        | more => more
      status := 0 }

/-- Reads the next of the options among some arguments into a variable, with its argument. -/
def getoptsBuiltin : Builtin := fun args => do
  match args with
  | letters :: name :: more =>
    let p := (← get).process
    let given := if more.isEmpty then p.arguments else more
    let index := max 1 (((Entries.get? p.bindings "OPTIND").bind String.toNat?).getD 1)
    let begun : Nat × List Char :=
      if p.pending.1 = index && !p.pending.2.isEmpty then p.pending
      else
        match (given[index - 1]?).map String.toList with
        | some ['-', '-'] => (index + 1, [])
        | some ('-' :: rest) => (if rest.isEmpty then index else index + 1, rest)
        | _ => (index, [])
    match begun with
    | (index, []) =>
      finish name "?" index [] 1
    | (index, letter :: rest) =>
      let quiet := letters.startsWith ":"
      let behind := letters.toList.dropWhile (· != letter)
      let wanted := (behind.drop 1).head? = some ':'
      if behind.isEmpty || letter = ':' then
        if quiet then assign "OPTARG" letter.toString
        else
          emitText 2 s!"Illegal option -{letter}\n"
          changeProcess fun p => { p with bindings := Entries.erase "OPTARG" p.bindings }
        finish name "?" index rest 0
      else if !wanted then
        assign "OPTARG" ""
        finish name letter.toString index rest 0
      else if !rest.isEmpty then
        assign "OPTARG" (String.ofList rest)
        finish name letter.toString index [] 0
      else
        match given[index - 1]? with
        | some value =>
          assign "OPTARG" value
          finish name letter.toString (index + 1) [] 0
        | none =>
          if quiet then assign "OPTARG" letter.toString
          else
            emitText 2 s!"No arg for -{letter} option\n"
            changeProcess fun p => { p with bindings := Entries.erase "OPTARG" p.bindings }
          finish name (if quiet then ":" else "?") index [] 0
  | _ => shellFails "Usage: getopts optstring var [arg...]"
where
  /-- Keeps what was read and where to go on. -/
  finish (name value : String) (index : Nat) (rest : List Char) (status : Nat) : Run Unit := do
    assignFree name value
    assign "OPTIND" (Nat.repr index)
    changeProcess fun p => { p with pending := (index, rest), status := status }

/-- Drops arguments of the shell from the front. -/
def shiftBuiltin : Builtin := fun args => do
  let count ← countArgument 0 args
  if (← get).process.arguments.length < count then shellFails "can't shift that many"
  changeProcess fun p => { p with arguments := p.arguments.drop count, status := 0 }

/-! ## Traps and jobs -/

/-- Shows what is done about signals and at the end, in the order of the signals. -/
def showTraps : Run Unit := do
  let traps := (← get).process.traps
  for name in "EXIT" :: Signal.listing do
    match Entries.get? traps name with
    | some action => emitText 1 s!"trap -- {singleQuoted action} {name}\n"
    | none => pure ()

/-- Says what to do about signals and at the end. -/
def trapBuiltin : Builtin := fun args => do
  let (action, names) : Option String × List String := match args with
    | "-" :: names => (none, names)
    | [name] => (none, [name])
    | action :: names => (some action, names)
    | [] => (none, [])
  setStatus 0
  if args.isEmpty then showTraps
  for name in names do
    match Signal.trapName? name with
    | none =>
      emitText 2 s!"trap: {name}: bad trap\n"
      setStatus 1
    | some name =>
      changeProcess fun p => { p with
        traps := match action with
          | some s => Entries.put name s p.traps
          | none => Entries.erase name p.traps
        deaf := if name = "TERM" then action = some "" else p.deaf }

/-- Waits for processes in the background. -/
def waitBuiltin : Builtin := fun args => do
  let s ← get
  let jobs := s.process.jobs.filter fun job => args.isEmpty || args.contains (Nat.repr job.number)
  let ends := jobs.foldl (fun t job => if t < job.ends then job.ends else t) s.world.time
  elapse (ends - s.world.time)
  for job in jobs do
    match job.signal with
    | some signal => if args.isEmpty then pure () else emitText 2 (Signal.words signal)
    | none => pure ()
  setStatus (if args.isEmpty then 0 else (jobs.getLast?.map Job.status).getD 127)

/-- Nothing is stopped, so there is no job to go on with. -/
def noJobBuiltin : Builtin := fun _ => shellFails "No current job"

/-- Does nothing. -/
def idleBuiltin : Builtin := fun _ => setStatus 0

/-- The builtin commands that run no other commands. -/
def builtins : List (String × Builtin) := [
  (":", idleBuiltin), ("exit", exitBuiltin), ("return", returnBuiltin), ("break", breakBuiltin),
  ("continue", continueBuiltin), ("cd", cdBuiltin), ("umask", umaskBuiltin), ("local", localBuiltin),
  ("export", exportBuiltin), ("readonly", readonlyBuiltin), ("unset", unsetBuiltin),
  ("read", readBuiltin), ("set", setBuiltin), ("shift", shiftBuiltin), ("trap", trapBuiltin),
  ("wait", waitBuiltin), ("bg", noJobBuiltin), ("fg", noJobBuiltin), ("jobs", idleBuiltin),
  ("times", idleBuiltin), ("ulimit", idleBuiltin), ("hash", idleBuiltin), ("alias", idleBuiltin),
  ("unalias", idleBuiltin), ("getopts", getoptsBuiltin)]

/-- Builtin commands that run other commands. -/
def runningNames : List String := ["eval", ".", "exec", "kill", "command", "type"]

/-- Tools that the shell has itself. -/
def toolNames : List String := ["true", "false", "printf", "test", "[", "pwd", "echo"]

/-- Builtin commands that end the shell when they fail, and whose assignments stay. -/
def fatalNames : List String :=
  [":", "exit", "return", "break", "continue", "export", "unset", "set", "shift", "eval", ".", "exec",
    "trap", "times", "readonly", "local"]

/-- A command that is part of the shell. -/
def isBuiltin (name : String) : Bool :=
  runningNames.contains name || toolNames.contains name || (Entries.get? builtins name).isSome

/-! ## Descriptions -/

/-- Describes commands, in words or by what they lead to. -/
def describeAll (inWords : Bool) (names : List String) : Run Unit := do
  setStatus 0
  for command in names do
    let p := (← get).process
    let t ← viewTree
    let searched := (paramValue p "PATH").getD ""
    let path := (candidatePaths searched command).find? fun path =>
      (imageAt t maxReaders path [path]).toOption.isSome
    let kind :=
      if keywords.contains command then some "a shell keyword"
      else if p.functions.any (·.1 == command) then some "a shell function"
      else if fatalNames.contains command then some "a special shell builtin"
      else if isBuiltin command then some "a shell builtin"
      else none
    match kind, path with
    | some kind, _ => emitText 1 (if inWords then s!"{command} is {kind}\n" else command ++ "\n")
    | none, some path => emitText 1 (if inWords then s!"{command} is {path}\n" else path ++ "\n")
    | none, none =>
      if inWords then emitText 1 s!"{command}: not found\n"
      setStatus 127

end Greenlight.Host
