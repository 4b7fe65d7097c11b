import Greenlight.Host.Arithmetic
import Greenlight.Host.Builtin

/-! # The shell

How commands run: words are expanded, channels redirected, and builtin commands, functions and programs
called. Every function has a number of steps that it may take. -/

namespace Greenlight.Host

/-! ## Processes and jumps -/

/-- Runs a step in a process of its own, and gives its status. A signal goes on to the process around
it if `sharesSignals` is set, and is described on the channel for errors otherwise. -/
def inProcess (p : Process) (sharesSignals : Bool) (step : Run Unit) : Run Nat := do
  let outer := (← get).process
  changeProcess fun _ => p
  let ended ← observe step
  let inner := (← get).process
  changeProcess fun _ => outer
  match ended with
  | .ok () => return inner.status
  | .error (.ended status) | .error (.returned status) | .error (.failed status) => return status
  | .error (.killed signal) =>
    if sharesSignals then throw (.killed signal)
    else
      emitText 2 (Signal.words signal)
      return 128 + signal
  | .error .late => throw .late
  | .error (.leaveLoops _) | .error (.nextRound _) => return inner.status
where
  /-- A step with its jump as a result. -/
  observe (step : Run Unit) : Run (Except Jump Unit) := fun s => do
    let (r, s) := step.run s
    return (.ok r, s)

/-- The number of functions that can run inside each other. -/
def maxDepth : Nat := 1000

/-- Time enough for everything else to end. -/
def forever : Rat := 1000000000

/-- What the shell writes about a file that could not be opened. -/
def openComplaint (kind : RedirKind) (path : String) (problem : FileProblem) : String :=
  let reads := kind == RedirKind.read
  let verb := if reads then "open" else "create"
  let cause := match problem with
    | .missing => if reads then "No such file" else "Directory nonexistent"
    | problem => problem.words
  s!"cannot {verb} {path}: {cause}"

/-- A process that a process starts. -/
def childOf (p : Process) (number : Nat) : Process :=
  { p with
    number := number
    bindings := environmentOf p
    functions := []
    traps := p.traps.filter (·.2.isEmpty)
    jobs := []
    options := []
    caller := none
    pending := (0, [])
    constants := []
    locals := none
    depth := 0
    loops := 0 }

/-- Runs a step and puts the channels back. -/
def keepingChannels (step : Run Unit) : Run Unit := do
  let opened := (← get).process.opened
  inAnyCase step (changeProcess fun p => { p with opened := opened })

/-- Runs a step of an ordinary command of the shell: if it fails, the shell goes on. -/
def goingOn (step : Run Unit) : Run Unit :=
  tryCatch step fun jump =>
    match jump with
    | .failed status => setStatus status
    | jump => throw jump

/-- Lets the process end if failures that are not guarded end it. -/
def failFast (guarded : Bool) : Run Unit := do
  let p := (← get).process
  if p.options.contains 'e' && !guarded && p.status != 0 then throw (.ended p.status)

/-- The variables that the shell sets at its start. -/
def startValues (p : Process) : List (String × String) :=
  let search := (Entries.get? p.bindings "PATH").getD
    "/usr/local/sbin:/usr/local/bin:/usr/sbin:/usr/bin:/sbin:/bin"
  [("PATH", search), ("IFS", " \t\n"), ("OPTIND", "1"), ("PS4", "+ "), ("PWD", positionText p.folder)]

/-! ## Running -/

mutual

/-- The parts of an expanded word. -/
def expandWord : Nat → Word → Run (List Part)
  | 0, _ => throw .late
  | _, [] => return []
  | fuel + 1, piece :: rest => do
    let first ← expandPiece fuel piece
    let more ← expandWord fuel rest
    return first ++ more

/-- The parts of an expanded piece. -/
def expandPiece : Nat → Piece → Run (List Part)
  | 0, _ => throw .late
  | fuel + 1, piece => do
    match piece with
    | .bare s => return [.chars s false]
    | .quoted s => return [.chars s true]
    | .arithmetic inQuotes expression =>
      let s := plain (joinParts (← expandWord fuel expression))
      let p := (← get).process
      match (Arithmetic.Term.read s).bind (Arithmetic.Term.eval (paramValue p) []) with
      | .ok (n, changes) =>
        for (name, value) in changes.reverse do
          assignFree name (toString value)
        return [asPart inQuotes (toString n)]
      | .error defect => shellFails (defect.message s)
    | .output inQuotes script => return [asPart inQuotes (← capture fuel script)]
    | .param inQuotes name use word =>
      let p := (← get).process
      if (name == "@" || (name == "*" && !inQuotes)) && use = .plain then
        return List.intersperse .cut (p.arguments.map fun s => asPart inQuotes s)
      else
        let value := paramValue p name
        let missing (orEmpty : Bool) : Bool :=
          match value with
          | none => true
          | some s => orEmpty && s.isEmpty
        let isLacking : Bool := value.isNone && p.options.contains 'u' && name != "@" && name != "*"
        let complainLacking : Run Unit := shellFails s!"{name}: parameter not set"
        match use with
        | .plain =>
          if isLacking then complainLacking
          return [asPart inQuotes (value.getD "")]
        | .length =>
          if isLacking then complainLacking
          return [asPart inQuotes (Nat.repr (value.getD "").length)]
        | .default orEmpty =>
          if missing orEmpty then expandWord fuel (replaceTilde p word)
          else return [asPart inQuotes (value.getD "")]
        | .assign orEmpty =>
          if missing orEmpty then
            let s ← expandText fuel word
            assignFree name s
            return [asPart inQuotes s]
          else return [asPart inQuotes (value.getD "")]
        | .alternative orEmpty =>
          if missing orEmpty then return [] else expandWord fuel (replaceTilde p word)
        | .demand orEmpty =>
          if missing orEmpty then
            let s := plain (joinParts (← expandWord fuel word))
            let s := if s.isEmpty then "parameter not set" else s
            shellFails s!"{name}: {s}"
          else return [asPart inQuotes (value.getD "")]
        | .trim atStart longest =>
          if isLacking then complainLacking
          let pattern := patternOf (joinParts (← expandWord fuel word))
          return [asPart inQuotes (trimMatch atStart longest pattern (value.getD ""))]
where
  /-- A value as part of a word. -/
  asPart (inQuotes : Bool) (s : String) : Part := if inQuotes then .chars s true else .value s

/-- What a script writes, without the line ends behind it. -/
def capture : Nat → String → Run String
  | 0, _ => throw .late
  | fuel + 1, script => do
    let index ← openChannel (.buffer [])
    let p := (← get).process
    let status ← inProcess
      { p with opened := (1, index) :: p.opened.filter (·.1 != 1), traps := [] } true
      (runScript fuel false ⟨script.toList, p.line⟩)
    changeProcess fun p => { p with taken := status }
    let (bytes, w) := readFrom index none (settle (← get).world)
    changeWorld fun _ => w
    return String.ofList (((Text.decodeLossy bytes).reverse.dropWhile (· == '\n')).reverse)

/-- The texts of expanded words. -/
def expandWords : Nat → List Word → Run (List String)
  | 0, _ => throw .late
  | _, [] => return []
  | fuel + 1, word :: rest => do
    let parts ← expandWord fuel (replaceTilde (← get).process word)
    let p := (← get).process
    let fields := fieldsFrom (separatorsOf p) none parts
    let texts ← if !p.options.contains 'f' && fields.any hasSigns then do
        let t ← viewTree
        pure (fields.flatMap (fieldTexts t))
      else pure (fields.map plain)
    let more ← expandWords fuel rest
    return texts ++ more

/-- The text of an expanded word that does not fall apart. -/
def expandText : Nat → Word → Run String
  | 0, _ => throw .late
  | fuel + 1, word =>
    return plain (joinParts (← expandWord fuel (replaceTilde (← get).process word)))

/-- Opens the channels of redirections; `false` if one cannot be opened. -/
def redirect : Nat → List Redir → Run Bool
  | 0, _ => throw .late
  | _, [] => return true
  | fuel + 1, .mk channel kind target :: rest => do
    let s ← expandText fuel target
    match kind with
    | .duplicate =>
      if s = "-" then
        setChannel channel none
        redirect fuel rest
      else
        match ← channelIndex? ((Decimal.readPlainDigits? 10 s.toList).getD 0) with
        | some index =>
          setChannel channel (some index)
          redirect fuel rest
        | none =>
          shellComplains s!"{s}: Bad file descriptor" 2
          return false
    | .document =>
      setChannel channel (some (← openChannel (.buffer (Text.encode s))))
      redirect fuel rest
    | kind =>
      match ← openFile ((← get).process.options.contains 'C') kind s with
      | .ok found =>
        setChannel channel (some (← openChannel found))
        redirect fuel rest
      | .error problem =>
        shellComplains (openComplaint kind s problem) 2
        return false

/-- Gives variables values. -/
def assignAll : Nat → Bool → List (String × Word) → Run Unit
  | 0, _, _ => throw .late
  | _, _, [] => return
  | fuel + 1, exports, (name, word) :: rest => do
    let s ← expandText fuel word
    assignFree name s
    if exports then changeProcess fun p => { p with exported := name :: p.exported }
    assignAll fuel exports rest

/-- Runs a command; a failure under a condition is `guarded`. -/
def runCommand : Nat → Bool → Command → Run Unit
  | 0, _, _ => throw .late
  | fuel + 1, guarded, command => do
    match command with
    | .simple line assignments words redirs =>
      runSimple fuel guarded line assignments words redirs
      failFast guarded
    | .pipeline negated parts =>
      runPipeline fuel (guarded || negated) parts
      if negated then
        setStatus (if (← get).process.status = 0 then 1 else 0)
      else failFast guarded
    | .both first second =>
      runCommand fuel true first
      if (← get).process.status = 0 then runCommand fuel guarded second
    | .either first second =>
      runCommand fuel true first
      if (← get).process.status != 0 then runCommand fuel guarded second
    | .background inner => runBackground fuel inner
    | .sequence commands => runAll fuel guarded commands
    | .branch condition yes no =>
      runCommand fuel true condition
      if (← get).process.status = 0 then runBody fuel guarded yes else runBody fuel guarded no
    | .loop untilTrue condition body =>
      inLoop (runLoop fuel guarded untilTrue condition body 0)
    | .each name words body =>
      let values ← match words with
        | some words => expandWords fuel words
        | none => pure (← get).process.arguments
      if values.isEmpty then setStatus 0
      inLoop (runEach fuel guarded name body values)
    | .choose word arms =>
      let s ← expandText fuel word
      runChoice fuel guarded s arms
    | .group inner redirs =>
      keepingChannels do
        if ← redirect fuel redirs then runCommand fuel guarded inner
    | .subshell inner redirs =>
      keepingChannels do
        if ← redirect fuel redirs then
          let p := (← get).process
          let status ← inProcess { p with traps := [] } true
            (runCommand fuel guarded inner)
          setStatus status
      failFast guarded
    | .define name body =>
      changeProcess fun p => { p with
        functions := Entries.put name body p.functions, status := 0 }

where
  /-- Runs a step as part of a loop. -/
  inLoop (step : Run Unit) : Run Unit := do
    let outer := (← get).process.loops
    changeProcess fun p => { p with loops := outer + 1 }
    inAnyCase step (changeProcess fun p => { p with loops := outer })

/-- Runs the commands of a list. -/
def runAll : Nat → Bool → List Command → Run Unit
  | 0, _, _ => throw .late
  | _, _, [] => return
  | fuel + 1, guarded, command :: rest => do
    runCommand fuel guarded command
    runAll fuel guarded rest

/-- Runs the body of a branch; an empty one succeeds. -/
def runBody : Nat → Bool → Command → Run Unit
  | 0, _, _ => throw .late
  | fuel + 1, guarded, body => do
    match body with
    | .sequence [] => setStatus 0
    | body => runCommand fuel guarded body

/-- Runs the condition or the body of a loop: `true` if the loop is left. -/
def runRound : Nat → Bool → Command → Run Bool
  | 0, _, _ => throw .late
  | fuel + 1, guarded, body => do
    tryCatch (do runCommand fuel guarded body; return false) fun jump =>
      match jump with
      | .leaveLoops (n + 2) => throw (.leaveLoops (n + 1))
      | .leaveLoops _ => return true
      | .nextRound (n + 2) => throw (.nextRound (n + 1))
      | .nextRound _ => return false
      | jump => throw jump

/-- Runs a loop; `status` is that of its last round. -/
def runLoop : Nat → Bool → Bool → Command → Command → Nat → Run Unit
  | 0, _, _, _, _, _ => throw .late
  | fuel + 1, guarded, untilTrue, condition, body, status => do
    if ← runRound fuel true condition then setStatus 0
    else if ((← get).process.status = 0) != untilTrue then
      if ← runRound fuel guarded body then setStatus 0
      else runLoop fuel guarded untilTrue condition body (← get).process.status
    else setStatus status

/-- Runs the body of a loop for each of some values. -/
def runEach : Nat → Bool → String → Command → List String → Run Unit
  | 0, _, _, _, _ => throw .late
  | _, _, _, _, [] => return
  | fuel + 1, guarded, name, body, value :: rest => do
    assignFree name value
    if ← runRound fuel guarded body then setStatus 0
    else runEach fuel guarded name body rest

/-- Runs the first arm with a pattern that matches. -/
def runChoice : Nat → Bool → String → List (List Word × Command) → Run Unit
  | 0, _, _, _ => throw .late
  | _, _, _, [] => setStatus 0
  | fuel + 1, guarded, s, (patterns, body) :: rest => do
    if ← matchesAny fuel s patterns then runBody fuel guarded body
    else runChoice fuel guarded s rest

/-- One of some patterns matches. -/
def matchesAny : Nat → String → List Word → Run Bool
  | 0, _, _ => throw .late
  | _, _, [] => return false
  | fuel + 1, s, word :: rest => do
    let pattern := patternOf (joinParts (← expandWord fuel (replaceTilde (← get).process word)))
    if matchesAll pattern s.toList then return true else matchesAny fuel s rest

/-- Runs the parts of a pipeline one after the other, each on what the one before leaves. Its time is
that of the part that takes longest. -/
def runPipeline : Nat → Bool → List Command → Run Unit
  | 0, _, _ => throw .late
  | _, _, [] => return
  | fuel + 1, guarded, [part] => runCommand fuel guarded part
  | fuel + 1, guarded, part :: rest => do
    let start := (← get).world.time
    let index ← openChannel (.buffer [])
    let p := (← get).process
    let _ ← inProcess { p with opened := (1, index) :: p.opened.filter (·.1 != 1), traps := [] } true
      (runCommand fuel true part)
    let firstEnd := (← get).world.time
    changeWorld fun w => { w with time := start }
    let p := (← get).process
    let status ← inProcess { p with opened := (0, index) :: p.opened.filter (·.1 != 0), traps := [] }
      true (runPipeline fuel guarded rest)
    setStatus status
    changeWorld fun w => { w with time := if w.time < firstEnd then firstEnd else w.time }

/-- Runs a command in the background: at once, but the time does not count. -/
def runBackground : Nat → Command → Run Unit
  | 0, _ => throw .late
  | fuel + 1, command => do
    let start := (← get).world
    let p := (← get).process
    let index ← openChannel .nowhere
    let number := p.number + p.jobs.length + 1
    let job ← tryCatch (do
        let status ← inProcess
          { p with
            opened := (0, index) :: p.opened.filter (·.1 != 0), jobs := [], traps := []
            behind := p.behind.orElse fun _ => some (number, index) } true
          (runCommand fuel true command)
        return ⟨number, (← get).world.time, status, none⟩) fun jump =>
      match jump with
      | .late => return ⟨number, start.time + forever, 143, none⟩
      | jump => throw jump
    changeProcess fun _ => { p with jobs := p.jobs ++ [job], status := 0 }
    changeWorld fun w => { w with time := start.time, deadline := start.deadline, asked := start.asked }

/-- Runs a simple command. A process that has a trap for the end goes on with it when it is asked to
end. -/
def runSimple : Nat → Bool → Nat → List (String × Word) → List Word → List Redir → Run Unit
  | 0, _, _, _, _, _ => throw .late
  | fuel + 1, guarded, line, assignments, words, redirs => do
    changeProcess fun p => { p with line := line }
    tryCatch (do
      elapse commandTime
      changeProcess fun p => { p with taken := 0 }
      match ← expandWords fuel words with
      | [] =>
        assignAll fuel false assignments
        traceWords ((← assignedNow assignments))
        setStatus (← get).process.taken
        keepingChannels do
          let _ ← redirect fuel redirs
      | name :: args =>
        traceWords (name :: args)
        runNamed fuel guarded name args assignments redirs) fun jump => do
      let s ← get
      match jump, Entries.get? s.process.traps "TERM" with
      | .late, some action =>
        if s.world.asked || action.isEmpty then throw .late
        else
          changeWorld fun w => { w with
            asked := true, deadline := w.deadline.map (· + mercy) }
          setStatus 143
          runScript fuel false ⟨action.toList, line⟩
      | jump, _ => throw jump
where
  /-- Variables with the values that they were just given. -/
  assignedNow (assignments : List (String × Word)) : Run (List String) := do
    let p := (← get).process
    return assignments.map fun (name, _) => name ++ "=" ++ (paramValue p name).getD ""
  /-- Shows the words of a command that is about to run, if the shell does so. -/
  traceWords (words : List String) : Run Unit := do
    if (← get).process.options.contains 'x' && !words.isEmpty then
      emitText 2 ("+ " ++ Text.join " " words ++ "\n")

/-- Runs a command that has a name. -/
def runNamed : Nat → Bool → String → List String → List (String × Word) → List Redir → Run Unit
  | 0, _, _, _, _, _ => throw .late
  | fuel + 1, guarded, name, args, assignments, redirs => do
    let names := assignments.map (·.1)
    if name = "exec" && args.isEmpty then
      if !(← redirect fuel redirs) then throw (.failed 2)
      setStatus 0
    else
      keepingChannels do
        if ← redirect fuel redirs then
          match Entries.get? (← get).process.functions name with
          | some body =>
            keepingVariables names do
              assignAll fuel true assignments
              runFunction fuel guarded body args
          | none =>
            if fatalNames.contains name then
              assignAll fuel false assignments
              runDirect fuel guarded name args
            else
              keepingVariables names do
                assignAll fuel true assignments
                runDirect fuel guarded name args
        else if fatalNames.contains name then throw (.failed 2)

/-- Runs the body of a function with its arguments. -/
def runFunction : Nat → Bool → Command → List String → Run Unit
  | 0, _, _, _ => throw .late
  | fuel + 1, guarded, body, args => do
    let outer := (← get).process
    if maxDepth ≤ outer.depth then
      shellFails s!"Maximum function recursion depth ({maxDepth}) reached"
    changeProcess fun p => { p with
      arguments := args, locals := some [], depth := outer.depth + 1, loops := 0 }
    tryCatch (runCommand fuel guarded body) fun jump =>
      match jump with
      | .returned status => setStatus status
      | jump => throw jump
    changeProcess fun p => { p with
      arguments := outer.arguments
      locals := outer.locals
      depth := outer.depth
      loops := outer.loops
      bindings := restoreValues (p.locals.getD []) p.bindings }

/-- Runs a command that is no function. -/
def runDirect : Nat → Bool → String → List String → Run Unit
  | 0, _, _, _ => throw .late
  | fuel + 1, guarded, name, args => do
    if name = "command" then goingOn (runPlain fuel guarded args)
    else if fatalNames.contains name then calling (some name) (runBuiltin fuel guarded name args)
    else if isBuiltin name then
      goingOn (calling (some name) (runBuiltin fuel guarded name args))
    else runProgramNamed fuel name args

/-- Runs the command among the arguments of `command`, or describes it. -/
def runPlain : Nat → Bool → List String → Run Unit
  | 0, _, _ => throw .late
  | fuel + 1, guarded, args => do
    match args with
    | "-v" :: names => describeAll false (names.take 1)
    | "-V" :: names => describeAll true (names.take 1)
    | "-p" :: args | "--" :: args => runPlain fuel guarded args
    | name :: args => runDirect fuel guarded name args
    | [] => setStatus 0

/-- Starts a program by name, as a process of its own. -/
def runProgramNamed : Nat → String → List String → Run Unit
  | 0, _, _ => throw .late
  | fuel + 1, name, args => do
    let p := (← get).process
    let searched := (paramValue p "PATH").getD ""
    match lookUp (← viewTree) searched (name :: args) with
    | .ok image =>
      let status ← tryCatch (inProcess (childOf p (p.number + 100)) false
        (do elapse startTime; runImage fuel image)) fun jump => do
          match jump with
          | .late =>
            if p.traps.any fun (n, action) => n == "TERM" && !action.isEmpty then
              emitText 2 (Signal.words 15)
          | _ => pure ()
          throw jump
      setStatus status
    | .error .badFormat =>
      let status ← inProcess (childOf p (p.number + 100)) false
        (do elapse startTime; runImage fuel ⟨"sh", "sh" :: name :: args⟩)
      setStatus status
    | .error .missing => shellComplains s!"{name}: not found" 127
    | .error .denied =>
      let problem := if name.toList.contains '/' then FileProblem.denied.words else "Permission denied"
      shellComplains s!"{name}: {problem}" 126
    | .error problem =>
      shellComplains s!"{name}: {problem.words}" (if problem = .notFolder then 127 else 126)

/-- Runs a program in its process. -/
def runImage : Nat → Image → Run Unit
  | 0, _ => throw .late
  | fuel + 1, image => do
    let called := image.arguments.headD image.program
    let args := image.arguments.tail
    changeProcess fun p => { p with name := called }
    if shellNames.contains image.program then
      runShell fuel called args
    else if image.program = "kill" then runKill fuel args
    else if image.program = "env" then
      let empties := args.head? = some "-i"
      let args := if empties then args.tail else args
      let settings := args.takeWhile fun arg => arg.toList.contains '='
      changeProcess fun p => { p with
        bindings := settings.foldl (fun vars s =>
          let (name, value) := splitSetting s
          Entries.put name (value.getD "") vars)
          (if empties then [] else environmentOf p)
        exported := (if empties then [] else p.exported) ++ settings.map fun s => (splitSetting s).1 }
      match args.drop settings.length with
      | [] => setStatus (← printenvTool [])
      | name :: args =>
        let searched := (paramValue (← get).process "PATH").getD defaultSearch
        match lookUp (← viewTree) searched (name :: args) with
        | .ok inner => runImage fuel inner
        | .error problem =>
          setStatus (← toolFails s!"'{name}': {problem.words}"
            (if problem = .missing then 127 else 126))
    else
      match Entries.get? (tools (.ofProgram called)) image.program with
      | some tool => setStatus (← tool args)
      | none => setStatus 127

/-- The shell as a program: it reads a script from an argument, a file or its input. -/
def runShell : Nat → String → List String → Run Unit
  | 0, _, _ => throw .late
  | fuel + 1, name, args => do
    let fail (message : String) : Run (List Char) := do
      let _ ← complain s!"{name}: 0: {message}" 2
      throw (.ended 2)
    let script ← match readOptions ('c' :: optionLetters) [] args with
      | .error option => fail s!"Illegal option {option}"
      | .ok (options, args) => do
        let args := if args.head? = some "--" then args.tail else args
        changeProcess fun p => { p with
          bindings := Entries.merge p.bindings (startValues p)
          exported := "PWD" :: p.exported
          name := name, options := options.filter (· != 'c'), line := 1 }
        match options.contains 'c', args with
        | true, script :: more =>
          changeProcess fun p => { p with name := more.headD name, arguments := more.tail }
          pure script.toList
        | true, [] => fail "-c requires an argument"
        | false, [] => pure (Text.decodeLossy (← receive 0 none))
        | false, path :: more =>
          changeProcess fun p => { p with name := path, arguments := more }
          match ← readInput path with
          | .ok bytes => pure (Text.decodeLossy bytes)
          | .error problem =>
            let cause := if problem = .missing then "No such file" else problem.words
            fail s!"cannot open {path}: {cause}"
    let jump ← tryCatch (do runScript fuel false ⟨script, 1⟩; return none) fun jump => return some jump
    match jump with
    | none => runExitTrap fuel
    | some (.ended status) | some (.returned status) | some (.failed status) =>
      setStatus status
      runExitTrap fuel
    | some jump => throw jump

/-- Runs what is kept for the end of the process. -/
def runExitTrap : Nat → Run Unit
  | 0 => throw .late
  | fuel + 1 => do
    let p := (← get).process
    match Entries.get? p.traps "EXIT" with
    | some action =>
      changeProcess fun p => { p with traps := [] }
      runScript fuel false ⟨action.toList, p.line⟩
      throw (.ended p.status)
    | none => throw (.ended p.status)

/-- Runs a script line by line. -/
def runScript : Nat → Bool → Source → Run Unit
  | 0, _, _ => throw .late
  | fuel + 1, guarded, source => do
    match readLine?.run source with
    | .error (fault, line) =>
      changeProcess fun p => { p with line := line }
      shellFails fault.message
    | .ok (none, _) => return
    | .ok (some command, rest) =>
      runCommand fuel guarded command
      runScript fuel guarded rest

/-- Runs a builtin command. -/
def runBuiltin : Nat → Bool → String → List String → Run Unit
  | 0, _, _, _ => throw .late
  | fuel + 1, guarded, name, args => do
    match name with
    | "eval" =>
      let p := (← get).process
      setStatus 0
      runScript fuel guarded ⟨(Text.join " " args).toList, p.line⟩
    | "." => runFile fuel guarded (args.headD "")
    | "exec" => runInstead fuel args
    | "kill" => runKill fuel args
    | "type" => describeAll true args
    | name =>
      let complaint ← complaintStart
      match Entries.get? builtins name, Entries.get? (tools ⟨complaint, false⟩) name with
      | some builtin, _ => builtin args
      | none, some tool => setStatus (← tool args)
      | none, none => setStatus 127

/-- Runs the script in a file. A name without a slash is looked for where programs are. -/
def runFile : Nat → Bool → String → Run Unit
  | 0, _, _ => throw .late
  | fuel + 1, guarded, name => do
    let t ← viewTree
    let p := (← get).process
    let paths := candidatePaths ((paramValue p "PATH").getD "") name
    match paths.find? t.isFile with
    | none =>
      if name.toList.contains '/' then shellFails s!"cannot open {name}: No such file"
      else shellFails s!"{name}: not found"
    | some path =>
      match ← readInput path with
      | .ok bytes =>
        setStatus 0
        calling (some name) (tryCatch (runScript fuel guarded ⟨Text.decodeLossy bytes, 1⟩) fun jump =>
          match jump with
          | .returned status => setStatus status
          | jump => throw jump)
      | .error problem => shellFails s!"cannot open {name}: {problem.words}"

/-- Runs a program in place of the shell. -/
def runInstead : Nat → List String → Run Unit
  | 0, _ => throw .late
  | fuel + 1, args => do
    let p := (← get).process
    let searched := (paramValue p "PATH").getD ""
    let command := args.headD ""
    match lookUp (← viewTree) searched args with
    | .ok image =>
      elapse startTime
      changeProcess fun p => childOf p p.number
      runImage fuel image
      throw (.ended (← get).process.status)
    | .error .missing =>
      shellComplains s!"{command}: not found" 127
      throw (.ended 127)
    | .error problem =>
      shellComplains s!"{command}: {problem.words}" 126
      throw (.ended 126)

/-- Sends a signal: to the process itself, or to one that it started. -/
def runKill : Nat → List String → Run Unit
  | 0, _ => throw .late
  | _, "-l" :: [] => do
    emitText 1 (String.join (Signal.listing.map (· ++ "\n")))
    setStatus 0
  | _, "-l" :: s :: _ => do
    let number ← numberArgument 0 s
    emitText 1 (Signal.shown (if number > 128 then number - 128 else number) ++ "\n")
    setStatus 0
  | _, [] =>
    shellFails ("Usage: kill [-s sigspec | -signum | -sigspec] [pid | job]... or\n" ++
      "kill -l [exitstatus]")
  | fuel + 1, args => do
    let (signal, targets) : Option Nat × List String := match args with
      | "-s" :: s :: rest => (Signal.number? s, rest)
      | "-n" :: s :: rest => (Signal.number? s, rest)
      | option :: rest =>
        if option.startsWith "-" then (Signal.number? (String.ofList (option.toList.drop 1)), rest)
        else (some 15, option :: rest)
      | [] => (some 15, [])
    match signal with
    | none => shellFails ("Illegal option " ++ String.ofList ((args.headD "").toList.take 2))
    | some signal =>
      setStatus 0
      for target in targets do
        let s ← get
        let number? := Decimal.readPlainDigits? 10 target.toList
        let number := number?.getD 0
        if target = "0" || number = s.process.number || number + 100 = s.process.number then
          match (Signal.name? signal).bind (Entries.get? s.process.traps ·) with
          | some action => if action.isEmpty then pure () else
              calling none (runScript fuel false ⟨action.toList, s.process.line⟩)
          | none =>
            if Signal.isHarmless signal then pure ()
            else if Signal.isHalting signal then elapse forever
            else throw (.killed signal)
        else if s.process.jobs.any (·.number == number) then
          if Signal.isHarmless signal then pure ()
          else
            changeProcess fun p => { p with
              jobs := p.jobs.map fun job =>
                if job.number = number && s.world.time < job.ends then
                  ⟨number, s.world.time, 128 + signal, some signal⟩ else job }
            changeWorld fun w => { w with delayed := w.delayed.filter (·.job != number) }
        else if number?.isNone && !target.startsWith "-" then
          shellFails s!"Illegal number: {target}"
        else shellComplains "No such process\n" 1

end

end Greenlight.Host
