import Greenlight.Entries
import Greenlight.Text.Pieces

/-! # Arguments

The options that the command line knows, and how a row of arguments is cut into them. An option takes a
value from behind its equals sign or from the next argument, whatever that is; switches take none. Two
hyphens end the options. -/

namespace Greenlight.CommandLine

/-- Options without a value. -/
inductive Switch where
  | strictAdvisory (on : Bool)
  | advisoryFatal (on : Bool)
  | planOnly (on : Bool)
  | showOutput (on : Bool)
  | verbose
  | version
  | help
deriving DecidableEq, Repr

/-- Options with a value. -/
inductive Field where
  | root
  | configFile
  | package
  | skippedStage
  | featureSet
  | deniedExample
  | taskLimit
  | reportFile
deriving DecidableEq, Repr

/-- The names of the switches. -/
def switches : List (String × Switch) := [
  ("--strict-advisory", .strictAdvisory true), ("--no-strict-advisory", .strictAdvisory false),
  ("--advisory-failures-fatal", .advisoryFatal true),
  ("--advisory-failures-nonfatal", .advisoryFatal false),
  ("--plan", .planOnly true), ("--run", .planOnly false),
  ("--show-output", .showOutput true), ("--quiet-output", .showOutput false),
  ("--verbose", .verbose), ("--version", .version), ("--help", .help)]

/-- The names of the options with a value. -/
def fields : List (String × Field) := [
  ("--project-root", .root), ("--config", .configFile), ("--package", .package),
  ("--skip-stage", .skippedStage), ("--feature-set", .featureSet),
  ("--deny-example", .deniedExample), ("--timeout-seconds", .taskLimit),
  ("--report-json", .reportFile)]

/-- One option as it was given. -/
inductive Given where
  | switch (s : Switch)
  | field (f : Field) (value : String)
deriving DecidableEq, Repr

/-- Why arguments cannot be understood. -/
inductive UsageError where
  | unknownOption (name : String)
  | valueMissing (name : String)
  | valueUnexpected (name : String)
  | strayArgument (argument : String)
  | unknownStage (name : String)
  | noPositiveNumber (value : String)
  | isFile (path : String)
  | isFolder (path : String)
deriving DecidableEq, Repr

/-- The error in words. -/
def UsageError.message : UsageError → String
  | .unknownOption name => s!"No such option: {name}"
  | .valueMissing name => s!"Option {name} requires an argument."
  | .valueUnexpected name => s!"Option {name} does not take a value."
  | .strayArgument argument => s!"Got unexpected extra argument ({argument})"
  | .unknownStage name => s!"{name} is not a stage."
  | .noPositiveNumber value => s!"{value} is not a number above zero."
  | .isFile path => s!"{path} is a file."
  | .isFolder path => s!"{path} is a directory."

/-- An argument that stands for an option: it starts with a hyphen and goes on. -/
def isOption (argument : String) : Bool :=
  argument.startsWith "-" && argument != "-"

/-- The name of an option and the value behind its equals sign. -/
def splitOption (argument : String) : String × Option String :=
  match Text.cutAtFirst '=' argument.toList with
  | some (name, value) => (String.ofList name, some (String.ofList value))
  | none => (argument, none)

/-- Switches of one letter in a row behind one hyphen; `v` is the only letter. -/
def readLetters (argument : String) : Except UsageError (List Given) :=
  if argument.startsWith "--" then .error (.unknownOption argument)
  else
    (argument.toList.drop 1).mapM fun letter =>
      if letter == 'v' then .ok (Given.switch .verbose)
      else .error (.unknownOption (String.ofList ['-', letter]))

/-- Puts something in front of the options of the arguments that follow. -/
def withOptions (given : List Given) (r : Except UsageError (List Given × List String)) :
    Except UsageError (List Given × List String) :=
  r.map fun (more, stray) => (given ++ more, stray)

/-- The options in a row of arguments, and the arguments that are none. -/
def scan : List String → Except UsageError (List Given × List String)
  | [] => .ok ([], [])
  | argument :: rest =>
    if argument == "--" then .ok ([], rest)
    else if !isOption argument then (scan rest).map fun (given, stray) => (given, argument :: stray)
    else
      let (name, value) := splitOption argument
      match Entries.get? switches name, Entries.get? fields name with
      | some s, _ =>
        if value.isSome then .error (.valueUnexpected name)
        else withOptions [.switch s] (scan rest)
      | none, some f =>
        match value, rest with
        | some v, rest => withOptions [.field f v] (scan rest)
        | none, v :: rest => withOptions [.field f v] (scan rest)
        | none, [] => .error (.valueMissing name)
      | none, none =>
        match readLetters argument with
        | .ok given => withOptions given (scan rest)
        | .error e => .error e

end Greenlight.CommandLine
