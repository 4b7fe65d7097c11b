import Greenlight.Json
import Greenlight.Task
import Greenlight.Text.LowerCase
import Greenlight.Text.Pieces

/-! # Diagnoses

Why a command failed, read from its output. Each stage has a row of rules, tried in order; a rule fires
on the first of its patterns that occurs in the output, in lower case. Without a rule that fires the
exit status is all there is to say. -/

namespace Greenlight

/-- A diagnosis: its code, the rule behind it and the pattern that was found. -/
structure Diagnosis where
  code : String
  rule : String
  pattern : Option String
deriving DecidableEq, Repr

namespace Diagnosis

/-- A rule: its code, and the patterns it looks for in their order. -/
structure Rule where
  code : String
  patterns : List String
deriving DecidableEq, Repr

/-- A tool of the command is not there. -/
def toolMissing : Rule where
  code := "tool_missing"
  patterns := ["no such command", "no such subcommand", "is not installed", "command not found"]

/-- Lints that count as errors. -/
def lintDenied : Rule where
  code := "lint_denied"
  patterns := ["implied by `-d warnings`", "#[deny(",
    "could not compile due to previous error; warnings emitted"]

/-- The supported versions do not fit. -/
def versionMismatch : Rule where
  code := "msrv_incompatible"
  patterns := ["is not compatible", "is incompatible", "minimum supported rust version",
    "rust-version"]

/-- The package cannot be published. -/
def packageInvalid : Rule where
  code := "package_invalid"
  patterns := ["failed to verify package tarball", "uncommitted changes",
    "failed to prepare local package for uploading",
    "all dependencies must have a version specified"]

/-- What a failing test or a panic leaves in the output. -/
def testPatterns : List String :=
  ["test result: failed", "test failed, to rerun pass", "panicked at"]

/-- The code does not compile. -/
def compileError : Rule where
  code := "compile_error"
  patterns := ["could not compile", "error[e", "aborting due to"]

/-- Rules of one stage only. -/
def stageRules : Stage → List Rule
  | .lint => [lintDenied]
  | .msrv => [versionMismatch]
  | .publish => [packageInvalid]
  | .tests => [⟨"test_failed", testPatterns⟩]
  | .examples => [⟨"example_panicked", testPatterns⟩]
  | .docs => []

/-- All rules that a stage tries, in order. -/
def rules (stage : Stage) : List Rule := toolMissing :: stageRules stage ++ [compileError]

/-- The first pattern of a rule that occurs in a text. -/
def Rule.firing? (rule : Rule) (text : List Char) : Option String :=
  rule.patterns.find? fun pattern => Text.occursIn pattern.toList text

/-- The text that rules look at: error output, a line feed and standard output, in lower case. -/
def searched (stdout stderr : List Char) : List Char := Text.lowerChars (stderr ++ '\n' :: stdout)

/-- The diagnosis when no rule fires. -/
def ofStatus (status : Int) : Diagnosis where
  code := s!"exit_status_{status}"
  rule := "fallback_exit_status"
  pattern := none

/-- The diagnosis of the first rule that fires on a text. -/
def ofRules (rules : List Rule) (text : List Char) : Option Diagnosis :=
  rules.findSome? fun rule => (rule.firing? text).map fun pattern => ⟨rule.code, rule.code, pattern⟩

/-- The diagnosis of a failed command. -/
def ofOutput (stage : Stage) (status : Int) (stdout stderr : List Char) : Diagnosis :=
  (ofRules (rules stage) (searched stdout stderr)).getD (ofStatus status)

/-- The number of the rule set. -/
def version : Nat := 1

/-- A diagnosis as a JSON object, with the kind of failure it belongs to. -/
def details (kind : String) (d : Diagnosis) : List (String × Json) := [
  ("classifier_version", .int version),
  ("failure_kind", .text kind),
  ("reason_code", .text d.code),
  ("matched_rule", .text d.rule),
  ("matched_pattern", Json.ofText? d.pattern)]

end Diagnosis

end Greenlight
