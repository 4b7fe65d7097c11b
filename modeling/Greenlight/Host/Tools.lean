import Greenlight.Host.Condition
import Greenlight.Host.Tools.Files
import Greenlight.Host.Tools.Lines

/-! # Tools

The small programs of the machine by name. The shell has some of them itself. -/

namespace Greenlight.Host

/-- Writes its arguments, with their escapes resolved if `escapes` is set. -/
def writeWords (quiet escapes : Bool) (words : List String) : Run Nat := do
  let line := Text.join " " words
  let (bytes, ended) :=
    if escapes then resolveEscapes (line.length + 1) line.toList else (Text.encode line, false)
  emit 1 (if quiet || ended then bytes else bytes ++ [10])
  return 0

/-- Writes its arguments, as the shell does it. -/
def echoBuiltin : Tool := fun args =>
  if args.head? = some "-n" then writeWords true true args.tail else writeWords false true args

/-- Writes its arguments; options say whether escapes are resolved and the line is ended. -/
def echoTool : Tool := fun args =>
  let isOption (arg : String) : Bool :=
    match arg.toList with
    | '-' :: letters => !letters.isEmpty && letters.all "neE".toList.contains
    | _ => false
  let options := args.takeWhile isOption
  let letters := options.flatMap String.toList
  let escapes := (letters.filter fun c => c == 'e' || c == 'E').getLast? = some 'e'
  writeWords (letters.contains 'n') escapes (args.drop options.length)

/-- How a tool words its complaints: as a part of the shell or as a program of its own. -/
structure Voice where
  /-- The start of a complaint. -/
  start : String
  /-- The tool is a program of its own. -/
  isProgram : Bool

/-- What is wrong with an argument that is to be a number. -/
def Voice.ofArgument (voice : Voice) (arg : String) (defect : ArgumentDefect) : String :=
  match defect, voice.isProgram with
  | .noNumber, true => s!"'{arg}': expected a numeric value"
  | .noNumber, false => s!"{arg}: expected numeric value"
  | .partly, true => s!"'{arg}': value not completely converted"
  | .partly, false => s!"{arg}: not completely converted"
  | .beyondRange, true => s!"'{arg}': Numerical result out of range"
  | .beyondRange, false => s!"{arg}: Numerical result out of range"

/-- What is wrong with a format. -/
def Voice.ofFormat (voice : Voice) (defect : FormatDefect) : String :=
  match defect, voice.isProgram with
  | .unknown directive, true => directive ++ ": invalid conversion specification"
  | .unknown directive, false => directive ++ ": invalid directive"
  | .unfinished, true => "%: invalid conversion specification"
  | .unfinished, false => "missing format character"

/-- Writes a format. -/
def printfTool (voice : Voice) : Tool := fun args => do
  match if args.head? = some "--" then args.tail else args with
  | [] =>
    if voice.isProgram then usageFails "missing operand" 1
    else complain (voice.start ++ "usage: printf format [arg ...]") 2
  | format :: args =>
    let p := printAll (args.length + 1) format.toList args
    emit 1 p.bytes
    for (arg, defect) in p.strange do
      let _ ← complain (voice.start ++ voice.ofArgument arg defect) 1
    match p.defect with
    | some defect =>
      complain (voice.start ++ voice.ofFormat defect) (if voice.isProgram then 1 else 2)
    | none => return statusOf p.strange.isEmpty

/-- Tests a condition. -/
def testTool (complaint : String) : Tool := fun args => do
  let t ← if args.any fun arg => fileSigns.contains arg then viewTree else pure FileTree.empty
  match conditionOr t (4 * args.length + 4) args with
  | .ok a =>
    if a.rest.isEmpty then return statusOf a.holds
    else complain (complaint ++ (ConditionDefect.stray a.last).message) 2
  | .error defect => complain (complaint ++ defect.message) 2

/-- Tests a condition in brackets. -/
def bracketTool (complaint : String) : Tool := fun args => do
  if args.getLast? = some "]" then testTool complaint args.dropLast
  else complain s!"{complaint}missing ]" 2

/-! ## Time -/

/-- The seconds that a length of time stands for. -/
def duration? (s : String) : Option Rat :=
  let cs := s.toList
  let (cs, unit) : List Char × Rat := match cs.getLast? with
    | some 's' => (cs.dropLast, 1)
    | some 'm' => (cs.dropLast, 60)
    | some 'h' => (cs.dropLast, 3600)
    | some 'd' => (cs.dropLast, 86400)
    | _ => (cs, 1)
  match Decimal.read? cs with
  | some (.finite false digits exponent) => some (digits * (10 : Rat) ^ exponent * unit)
  | _ => none

/-- Waits. -/
def sleepTool : Tool := fun args => do
  match args.mapM duration? with
  | some [] => usageFails "missing operand" 1
  | some times =>
    elapse (times.foldl (· + ·) 0)
    return 0
  | none =>
    let time := args.headD ""
    usageFails s!"invalid time interval '{time}'" 1

/-- Writes values of the environment, or all of it. -/
def printenvTool : Tool := fun args => do
  let env := environmentOf (← get).process
  match args with
  | [] =>
    emitText 1 (String.join (env.map fun (name, value) => s!"{name}={value}\n"))
    return 0
  | names =>
    let found := names.filterMap fun name => (env.find? (·.1 == name)).map (·.2)
    emitText 1 (String.join (found.map (· ++ "\n")))
    return statusOf (found.length = names.length)

/-- Does nothing, with a status. -/
def idleTool (status : Nat) : Tool := fun _ => return status

/-- The tools by name. -/
def tools (voice : Voice) : List (String × Tool) := [
  ("true", idleTool 0), ("false", idleTool 1), ("printf", printfTool voice),
  ("echo", if voice.isProgram then echoTool else echoBuiltin),
  ("test", testTool voice.start), ("[", bracketTool voice.start), ("cat", catTool),
  ("head", headTool), ("tail", tailTool), ("wc", wcTool), ("seq", seqTool), ("tr", trTool),
  ("sort", sortTool), ("uniq", uniqTool), ("tee", teeTool), ("yes", yesTool), ("grep", grepTool),
  ("ls", lsTool), ("mkdir", mkdirTool), ("rm", rmTool), ("rmdir", rmdirTool), ("cp", cpTool),
  ("mv", mvTool), ("ln", lnTool), ("chmod", chmodTool), ("touch", touchTool), ("sleep", sleepTool),
  ("pwd", pwdTool), ("basename", basenameTool), ("dirname", dirnameTool),
  ("printenv", printenvTool)]

/-- The voice of a program with a name. -/
def Voice.ofProgram (name : String) : Voice := ⟨name ++ ": ", true⟩

end Greenlight.Host
