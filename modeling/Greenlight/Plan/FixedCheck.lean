import Greenlight.Entries
import Greenlight.Fault
import Greenlight.Plan.Toolchain
import Greenlight.Text.Blank
import Greenlight.Text.LowerCase

/-! # Fixed checks

The checks that do not depend on what the crate holds: lint, documentation, supported versions and a
publishing rehearsal, or the ones that a configuration declares in their place. -/

namespace Greenlight

open Text

/-- The declaration of a check. -/
structure FixedCheck where
  id : String
  command : List Arg
  severity : Severity
  stage : Stage
  description : String
  environment : List (String × String)
deriving DecidableEq, Repr

namespace FixedCheck

/-- The checks of a crate without declarations. -/
def defaults (t : Toolchain) : List FixedCheck := [
  ⟨"lint", t.command (Arg.ofTexts ["clippy", "--all-features", "--", "-Dwarnings"]), .blocking, .lint,
    "clippy with warnings denied", []⟩,
  ⟨"docs", t.command (.text "doc" :: t.packageArgs ++ Arg.ofTexts ["--all-features", "--no-deps"]),
    .advisory, .docs, "documentation build", []⟩,
  ⟨"msrv", t.command (Arg.ofTexts ["msrv", "verify"]), .advisory, .msrv,
    "minimum supported Rust version check", []⟩,
  ⟨"publish", t.command (.text "publish" :: t.packageArgs ++ Arg.ofTexts ["--all-features", "--dry-run"]),
    .blocking, .publish, "publish dry run", []⟩]

/-! ## Reading declarations -/

/-- A leading `cargo` stands for the invocation of the toolchain. -/
def expandCommand (t : Toolchain) (parts : List String) : List Arg :=
  match parts with
  | [] => []
  | head :: args =>
    if head = "cargo" then t.command (Arg.ofTexts args) else Arg.ofTexts parts

/-- The command of a declaration: one text cut into words, or a list of texts. -/
def readCommand (t : Toolchain) (id : String) (value : Value) : Except Fault (List Arg) := do
  let parts ← match value.text? with
    | some s => (ShellWords.split s).mapError Fault.words
    | none =>
      match value.items?.bind fun items => items.mapM Value.text? with
      | some parts => pure parts
      | none => .error (.expansion (.noCommand id))
  if parts.isEmpty then .error (.expansion (.commandEmpty id)) else return expandCommand t parts

/-- The text under a key, or the given one if the key is absent. -/
def textUnder (entries : List (Datum × Value)) (key absent : String) : Except Fault String :=
  ((Value.lookup entries key).getD (.text absent)).written

/-- The severity of a declaration. -/
def readSeverity (id : String) (entries : List (Datum × Value)) : Except Fault Severity := do
  match Severity.ofName? (lower (← textUnder entries "class" Severity.blocking.name)) with
  | some severity => return severity
  | none =>
    ((Value.lookup entries "class").getD .null).refuse fun shown =>
      .expansion (.severityUnknown id shown)

/-- The stage of a declaration: the one it names, or the one that has its id as name. -/
def readStage (id : String) (entries : List (Datum × Value)) : Except Fault Stage := do
  match Stage.ofName? (lower (← textUnder entries "stage" id)) with
  | some stage =>
    if stage.isDiscovered then throw (.expansion (.stageDiscovered id stage)) else return stage
  | none =>
    ((Value.lookup entries "stage").getD (.text id)).refuse fun shown =>
      .expansion (.stageUnknown id shown)

/-- The environment of a declaration, with all names and values as texts. -/
def readEnvironment (id : String) (entries : List (Datum × Value)) :
    Except Fault (List (String × String)) :=
  let given := (Value.lookup entries "env").getD .null
  match given.content with
  | .map members =>
    members.foldlM (fun found (name, value) => do
      return Entries.put (← (Value.ofDatum name).written) (← value.written) found) []
  | _ => if given.holds then .error (.expansion (.environmentNoMapping id)) else .ok []

/-- One declaration, at its place in the list. -/
def read (t : Toolchain) (index : Nat) (value : Value) : Except Fault FixedCheck :=
  match value.content with
  | .map entries =>
    match (Value.lookup entries "id").bind Value.text? with
    | some id =>
      if (strip id).isEmpty then .error (.expansion (.noId index))
      else do
        let command ← readCommand t id ((Value.lookup entries "command").getD .null)
        let severity ← readSeverity id entries
        let stage ← readStage id entries
        let environment ← readEnvironment id entries
        let description ← textUnder entries "description" ""
        return ⟨strip id, command, severity, stage, description, environment⟩
    | none => .error (.expansion (.noId index))
  | _ => .error (.expansion (.noMapping index))

/-- Declarations from a place in the list on. -/
def readFrom (t : Toolchain) (index : Nat) : List Value → Except Fault (List FixedCheck)
  | [] => .ok []
  | value :: rest => do
    let check ← read t index value
    let checks ← readFrom t (index + 1) rest
    return check :: checks

/-- All declarations of a list. -/
def readAll (t : Toolchain) (values : List Value) : Except Fault (List FixedCheck) :=
  readFrom t 0 values

end FixedCheck

end Greenlight
