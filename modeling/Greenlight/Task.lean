/-! # Tasks

A task is one external check: a command that must succeed. It belongs to a stage, and its severity
says whether a failure stops the campaign. -/

namespace Greenlight

/-- The stages of a campaign, in their order. -/
inductive Stage where
  | examples
  | tests
  | lint
  | docs
  | msrv
  | publish
deriving DecidableEq, Repr

/-- What a failure means for the tasks after it. -/
inductive Severity where
  | blocking
  | advisory
deriving DecidableEq, Repr

namespace Stage

/-- All stages in order. -/
def all : List Stage := [.examples, .tests, .lint, .docs, .msrv, .publish]

/-- The name of a stage. -/
def name : Stage → String
  | .examples => "examples"
  | .tests => "tests"
  | .lint => "lint"
  | .docs => "docs"
  | .msrv => "msrv"
  | .publish => "publish"

/-- The stage with a name. -/
def ofName? (name : String) : Option Stage := all.find? (·.name == name)

theorem ofName?_name (stage : Stage) : ofName? stage.name = some stage := by
  cases stage <;> rfl

theorem ofName?_eq_some_iff {name : String} {stage : Stage} :
    ofName? name = some stage ↔ stage.name = name := by
  constructor
  · intro h
    simpa using List.find?_some h
  · rintro rfl
    exact ofName?_name stage

theorem isSome_ofName?_iff {name : String} :
    (ofName? name).isSome = true ↔ ∃ stage : Stage, stage.name = name := by
  simp only [Option.isSome_iff_exists, ofName?_eq_some_iff]

theorem name_inj {a b : Stage} : a.name = b.name ↔ a = b := by
  rw [← ofName?_eq_some_iff, ofName?_name, Option.some.injEq, eq_comm]

/-- Stages whose tasks are found in the crate and not declared. -/
def isDiscovered : Stage → Bool
  | .examples | .tests => true
  | _ => false

end Stage

namespace Severity

/-- The name of a severity. -/
def name : Severity → String
  | .blocking => "blocking"
  | .advisory => "advisory"

/-- The severity with a name. -/
def ofName? (name : String) : Option Severity :=
  [Severity.blocking, .advisory].find? (·.name == name)

theorem ofName?_eq_some_iff {name : String} {severity : Severity} :
    ofName? name = some severity ↔ severity.name = name := by
  constructor
  · intro h
    simpa using List.find?_some h
  · rintro rfl
    cases severity <;> rfl

end Severity

/-- A part of a command. Only texts can be handed to a process; a value of another type may have come from
a configuration file. -/
inductive Arg where
  | text (s : String)
  | foreign
deriving DecidableEq, Repr

namespace Arg

/-- The text of a part, if it is one. -/
def text? : Arg → Option String
  | .text s => some s
  | .foreign => none

/-- Parts of a command from texts. -/
def ofTexts (texts : List String) : List Arg := texts.map .text

/-- The texts of a command that holds nothing else. -/
def texts? : List Arg → Option (List String)
  | [] => some []
  | .text s :: rest => (texts? rest).map (s :: ·)
  | .foreign :: _ => none

theorem ofTexts_of_texts? {command : List Arg} {texts : List String} (h : texts? command = some texts) :
    ofTexts texts = command := by
  induction command generalizing texts with
  | nil => simp_all [texts?, ofTexts]
  | cons arg rest ih =>
    cases arg with
    | foreign => simp [texts?] at h
    | text s =>
      obtain ⟨more, hmore, rfl⟩ := Option.map_eq_some_iff.1 h
      simpa [ofTexts] using ih hmore

end Arg

/-- One external check. -/
structure Task where
  id : String
  command : List Arg
  severity : Severity
  description : String
  stage : Stage
  environment : List (String × String)
deriving DecidableEq, Repr

end Greenlight
