import Greenlight.CommandLine.Arguments
import Greenlight.Gate
import Greenlight.Text.Lines

/-! # The command line

One call of the program: its arguments are read, the gate runs, and its lines are printed. -/

namespace Greenlight.CommandLine

/-! ## Values of options -/

/-- The options with a value that are given, in the order in which each came first. -/
def givenFields (given : List Given) : List Field :=
  (given.filterMap fun
    | .field f _ => some f
    | .switch _ => none).eraseDups

/-- All values of an option, in order. -/
def allValues (given : List Given) (field : Field) : List String :=
  given.filterMap fun
    | .field f value => if f = field then some value else none
    | _ => none

/-- The last switch that says something, and what it says. -/
def lastSwitch? (given : List Given) (meaning : Switch → Option Bool) : Option Bool :=
  given.reverse.findSome? fun
    | .switch s => meaning s
    | _ => none

/-- What a letter counts as when case does not: the long s and its ligatures count as the letters they
stand for. Letters that do not occur in the names of stages are left as they are. -/
def foldCase (c : Char) : List Char :=
  if c == 'ſ' then ['s'] else if c == 'ﬅ' || c == 'ﬆ' then ['s', 't'] else [c.toLower]

/-- The name of a stage in any case. -/
def readStageName (value : String) : Except UsageError String :=
  let name := String.ofList (value.toList.flatMap foldCase)
  if (Stage.ofName? name).isSome then .ok name else .error (.unknownStage value)

/-- A number of seconds above zero; a value that compares with nothing passes. -/
def readLimit (value : String) : Except UsageError Float :=
  match Decimal.readFloat? value.toList with
  | some seconds => if seconds ≤ 0 then .error (.noPositiveNumber value) else .ok seconds
  | none => .error (.noPositiveNumber value)

/-- Why a call cannot be read. -/
inductive CallError where
  | misuse (e : UsageError)
  | fault (e : Fault)

/-- A path that leads nowhere else than it may. Looking there takes a path without the character zero. -/
def readPath (isRefused : Bool) (e : String → UsageError) (value : String) : Except CallError Path :=
  if !FileTree.isNameable value then .error (.fault .unnameable)
  else if isRefused then .error (.misuse (e value))
  else .ok (Path.ofText value)

/-- A path that leads to no regular file. -/
def readFolderPath (t : FileTree) (value : String) : Except CallError Path :=
  readPath (t.isFile value) .isFile value

/-- A path that leads to no folder. -/
def readFilePath (t : FileTree) (value : String) : Except CallError Path :=
  readPath (t.isFolder value) .isFolder value

/-- Options with the values of a field, of which the last counts if one is asked for. -/
def withField (t : FileTree) (values : List String) (o : Gate.Options) :
    Field → Except CallError Gate.Options
  | .root => do return { o with root := ← values.getLast?.mapM (readFolderPath t) }
  | .configFile => do return { o with configFile := ← values.getLast?.mapM (readFilePath t) }
  | .package => .ok { o with package := values.getLast? }
  | .skippedStage => do
    return { o with skippedNames := ← (values.mapM readStageName).mapError .misuse }
  | .featureSet => .ok { o with featureSets := values }
  | .deniedExample => .ok { o with deniedExamples := values }
  | .taskLimit => do
    return { o with taskLimit := ← (values.getLast?.mapM readLimit).mapError .misuse }
  | .reportFile => do return { o with reportFile := ← values.getLast?.mapM (readFilePath t) }

/-- Options with the switches that are given. -/
def withSwitches (given : List Given) (o : Gate.Options) : Gate.Options :=
  { o with
    strictAdvisory := lastSwitch? given fun
      | .strictAdvisory on => some on
      | _ => none
    advisoryFatal := lastSwitch? given fun
      | .advisoryFatal on => some on
      | _ => none
    planOnly := (lastSwitch? given fun
      | .planOnly on => some on
      | _ => none).getD false
    showOutput := (lastSwitch? given fun
      | .showOutput on => some on
      | _ => none).getD true }

/-- The options of a run. The values of a field are read where it came first. -/
def options (t : FileTree) (given : List Given) : Except CallError Gate.Options := do
  let o ← (givenFields given).foldlM (fun o field => withField t (allValues given field) o field)
    Gate.Options.none
  return withSwitches given o

/-! ## Calls -/

/-- What a call asks for. -/
inductive Call where
  | version
  | help
  | gate (o : Gate.Options)

/-- The first option that asks for a word about the program itself. -/
def aside? (given : List Given) : Option Call :=
  given.findSome? fun
    | .switch .version => some .version
    | .switch .help => some .help
    | _ => none

/-- Reads the arguments of a call. -/
def read (t : FileTree) (arguments : List String) : Except CallError Call := do
  let (given, stray) ← (scan arguments).mapError .misuse
  match aside? given with
  | some call => return call
  | none =>
    let o ← options t given
    match stray with
    | [] => return .gate o
    | argument :: _ => throw (.misuse (.strayArgument argument))

/-- The name of the program and its version. -/
def versionLine : String := "release-gate, version 0.1.0"

/-- How the program is called. -/
def helpLines : List String :=
  "Usage: release-gate [OPTIONS]" :: "" :: "Options:" ::
    ((fields.map fun (name, _) => s!"  {name} VALUE") ++ switches.map fun (name, _) => s!"  {name}")

/-- The characters behind a control sequence of a terminal: an opening bracket, parameters from zero to
question mark, marks from space to slash, and a last character from at sign to tilde. -/
def dropControl? (cs : List Char) : Option (List Char) :=
  match cs with
  | '[' :: rest =>
    let marks := rest.dropWhile fun c => '0' ≤ c && c ≤ '?'
    match marks.dropWhile fun c => ' ' ≤ c && c ≤ '/' with
    | c :: rest => if '@' ≤ c ∧ c ≤ '~' then some rest else none
    | [] => none
  | _ => none

/-- A text without control sequences. -/
def plainChars : Nat → List Char → List Char
  | 0, cs => cs
  | _, [] => []
  | fuel + 1, c :: rest =>
    match (if c == '\x1b' then dropControl? rest else none) with
    | some rest => plainChars fuel rest
    | none => c :: plainChars fuel rest

/-- Lines as they are printed where no terminal shows them. -/
def printed (lines : List String) : String :=
  String.ofList (Text.shortenLineEnds (lines.flatMap fun line =>
    plainChars line.length line.toList ++ ['\n']))

/-- What a call of the program leaves: its output, its exit code and the campaign. -/
structure Ended where
  output : String
  exitCode : Nat
  campaign : Campaign FileTree

/-- Runs what a call asks for. -/
def Call.run (yaml : Yaml.Reader) (sur : Surroundings FileTree) (env : Environment) (t : FileTree) :
    Call → Except Fault Ended
  | .version => .ok ⟨printed [versionLine], 0, Campaign.idle t⟩
  | .help => .ok ⟨printed helpLines, 0, Campaign.idle t⟩
  | .gate o =>
    let (answer, c) := Gate.run yaml sur o env t
    answer.map fun verdict => ⟨printed verdict.lines, verdict.exitCode.number, c⟩

end Greenlight.CommandLine
