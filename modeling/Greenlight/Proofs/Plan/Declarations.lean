import Greenlight.Proofs.Plan.DeclaredParts

/-! # Declarations of fixed checks

Main statement: a list of declarations is read exactly when each of them is well-formed and what it says
can be written, and gives one check for each. Otherwise it is refused by the plan, but for a command that
cannot be cut into words and for whole numbers that are too long to be written. -/

namespace Greenlight

namespace FixedCheck

/-! ## What a declaration says -/

/-- A mapping with an id that is not blank. -/
structure Identifies (value : Value) (entries : List (Datum × Value)) (name : String) : Prop where
  content : value.content = .map entries
  id : (Value.lookup entries "id").bind Value.text? = some name
  notBlank : Text.strip name ≠ ""

/-- The entries of a declaration with an id give a check. -/
structure GivesCheck (t : Toolchain) (entries : List (Datum × Value)) (name : String)
    (check : FixedCheck) : Prop where
  id : check.id = Text.strip name
  command : ∃ words, GivesWords (valueUnder entries "command" .null) words ∧ words ≠ [] ∧
    check.command = expandCommand t words
  severity : (valueUnder entries "class" (.text Severity.blocking.name)).Spells check.severity.name
  stage : (valueUnder entries "stage" (.text name)).Spells check.stage.name
  notDiscovered : check.stage.isDiscovered = false
  environment : GivesEnvironment (valueUnder entries "env" .null) check.environment
  description : (valueUnder entries "description" (.text "")).written = .ok check.description

/-- A value declares a check. -/
def Declares (t : Toolchain) (value : Value) (check : FixedCheck) : Prop :=
  ∃ entries name, Identifies value entries name ∧ GivesCheck t entries name check

/-! ## Well-formed declarations -/

/-- A declaration that is well-formed. -/
structure IsWellFormed (value : Value) (entries : List (Datum × Value)) (name : String) : Prop
    extends Identifies value entries name where
  command : CommandFits entries
  severity : SeverityFits entries
  stage : StageFits entries name
  environment : EnvironmentFits entries

/-- A declaration that is well-formed, and whose environment and description can be written. -/
def IsAccepted (value : Value) : Prop :=
  ∃ entries name, IsWellFormed value entries name ∧ EnvironmentIsWritable entries ∧
    ¬(valueUnder entries "description" (.text "")).IsTooLong

/-- Faults of a declaration that are not those of a plan. Each is found only where all that is read
before it is well-formed. -/
inductive Slips (value : Value) : Fault → Prop where
  | words {entries name s defect} (hi : Identifies value entries name)
      (hs : (valueUnder entries "command" .null).text? = some s)
      (hw : Text.ShellWords.split s = .error defect) : Slips value (.words defect)
  | severity {entries name} (hi : Identifies value entries name) (hc : CommandFits entries)
      (hl : (valueUnder entries "class" (.text Severity.blocking.name)).IsTooLong) :
      Slips value (.number .tooLong)
  | stage {entries name} (hi : Identifies value entries name) (hc : CommandFits entries)
      (hs : SeverityFits entries) (hl : (valueUnder entries "stage" (.text name)).IsTooLong) :
      Slips value (.number .tooLong)
  | environment {entries name} (hf : IsWellFormed value entries name)
      (hl : ¬EnvironmentIsWritable entries) : Slips value (.number .tooLong)
  | description {entries name} (hf : IsWellFormed value entries name)
      (hl : (valueUnder entries "description" (.text "")).IsTooLong) :
      Slips value (.number .tooLong)

variable {t : Toolchain} {index : Nat} {value : Value} {values : List Value} {check : FixedCheck}
  {checks : List FixedCheck} {entries : List (Datum × Value)} {name : String} {fault : Fault}

/-! ## One declaration -/

theorem read_of_identifies (h : Identifies value entries name) (t : Toolchain) (index : Nat) :
    read t index value = do
      let command ← readCommand t name (valueUnder entries "command" .null)
      let severity ← readSeverity name entries
      let stage ← readStage name entries
      let environment ← readEnvironment name entries
      let description ← textUnder entries "description" ""
      return ⟨Text.strip name, command, severity, stage, description, environment⟩ := by
  unfold read
  rw [h.content]
  dsimp only
  rw [h.id]
  simp [h.notBlank, valueUnder]

/-- What is no mapping with an id is refused by the plan. -/
theorem read_of_not_identifies (h : ∀ entries name, ¬Identifies value entries name) (t : Toolchain)
    (index : Nat) : ∃ e, read t index value = .error (.expansion e) := by
  unfold read
  split
  · next entries hcontent =>
      split
      · next name hid =>
          split
          · exact ⟨_, rfl⟩
          · next hblank =>
              have hne : Text.strip name ≠ "" := by simpa using hblank
              exact absurd ⟨hcontent, hid, hne⟩ (h entries name)
      · exact ⟨_, rfl⟩
  · exact ⟨_, rfl⟩

theorem givesCheck_iff (h : Identifies value entries name) :
    read t index value = .ok check ↔ GivesCheck t entries name check := by
  rw [read_of_identifies h]
  simp only [bind_eq_ok_iff, readCommand_eq_ok_iff, readSeverity_eq_ok_iff, readStage_eq_ok_iff,
    readEnvironment_eq_ok_iff, pure, Except.pure, Except.ok.injEq]
  constructor
  · rintro ⟨command, hcommand, severity, hseverity, stage, ⟨hstage, hdiscovered⟩, environment,
      henvironment, description, hdescription, rfl⟩
    exact ⟨rfl, hcommand, hseverity, hstage, hdiscovered, henvironment, hdescription⟩
  · intro hg
    obtain ⟨id, command, severity, stage, description, environment⟩ := check
    obtain rfl : id = Text.strip name := hg.id
    exact ⟨command, hg.command, severity, hg.severity, stage, ⟨hg.stage, hg.notDiscovered⟩,
      environment, hg.environment, description, hg.description, rfl⟩

/-- A value is read as the check that it declares. -/
theorem read_eq_ok_iff : read t index value = .ok check ↔ Declares t value check := by
  constructor
  · intro h
    by_cases hi : ∃ entries name, Identifies value entries name
    · obtain ⟨entries, name, hi⟩ := hi
      exact ⟨entries, name, hi, (givesCheck_iff hi).1 h⟩
    · simp only [not_exists] at hi
      obtain ⟨e, he⟩ := read_of_not_identifies hi t index
      rw [he] at h
      cases h
  · rintro ⟨entries, name, hi, hg⟩
    exact (givesCheck_iff hi).2 hg

theorem exists_declares_iff : (∃ check, Declares t value check) ↔ IsAccepted value := by
  constructor
  · rintro ⟨check, entries, name, hi, hg⟩
    obtain ⟨words, hwords, hne, -⟩ := hg.command
    obtain ⟨hfits, hwritable⟩ := exists_givesEnvironment_iff.1 ⟨_, hg.environment⟩
    refine ⟨entries, name, ⟨hi, ?_, ?_, ?_, hfits⟩, hwritable, ?_⟩
    · exact ⟨words, hwords, hne⟩
    · exact ⟨_, hg.severity⟩
    · exact ⟨_, hg.stage, hg.notDiscovered⟩
    · exact Value.exists_written_iff.1 ⟨_, hg.description⟩
  · rintro ⟨entries, name, hf, hwritable, hdescription⟩
    obtain ⟨words, hwords, hne⟩ := hf.command
    obtain ⟨severity, hseverity⟩ := hf.severity
    obtain ⟨stage, hstage, hdiscovered⟩ := hf.stage
    obtain ⟨environment, henvironment⟩ := exists_givesEnvironment_iff.2 ⟨hf.environment, hwritable⟩
    obtain ⟨description, hdescription⟩ := Value.exists_written_iff.2 hdescription
    refine ⟨⟨Text.strip name, expandCommand t words, severity, stage, description, environment⟩,
      entries, name, hf.toIdentifies, ?_⟩
    exact ⟨rfl, ⟨words, hwords, hne, rfl⟩, hseverity, hstage, hdiscovered, henvironment,
      hdescription⟩

/-- A declaration that is not read is refused by the plan, or slips. -/
theorem read_eq_error (h : read t index value = .error fault) :
    fault.category = .expansion ∨ Slips value fault := by
  by_cases hi : ∃ entries name, Identifies value entries name
  · obtain ⟨entries, name, hi⟩ := hi
    rw [read_of_identifies hi] at h
    rcases bind_eq_error_iff.1 h with h | ⟨command, hcommand, h⟩
    · rcases readCommand_eq_error h with h | ⟨s, defect, hs, hw, rfl⟩
      · exact .inl h
      · exact .inr (.words hi hs hw)
    obtain ⟨words, hwords, hne, -⟩ := readCommand_eq_ok_iff.1 hcommand
    have hc : CommandFits entries := ⟨words, hwords, hne⟩
    rcases bind_eq_error_iff.1 h with h | ⟨severity, hseverity, h⟩
    · rcases readSeverity_eq_error h with h | ⟨hl, rfl⟩
      · exact .inl h
      · exact .inr (.severity hi hc hl)
    have hs : SeverityFits entries := ⟨severity, readSeverity_eq_ok_iff.1 hseverity⟩
    rcases bind_eq_error_iff.1 h with h | ⟨stage, hstage, h⟩
    · rcases readStage_eq_error h with h | ⟨hl, rfl⟩
      · exact .inl h
      · exact .inr (.stage hi hc hs hl)
    have hst : StageFits entries name := ⟨stage, readStage_eq_ok_iff.1 hstage⟩
    rcases bind_eq_error_iff.1 h with h | ⟨environment, henvironment, h⟩
    · rcases readEnvironment_eq_error h with h | ⟨hfits, hl, rfl⟩
      · exact .inl h
      · exact .inr (.environment ⟨hi, hc, hs, hst, hfits⟩ hl)
    obtain ⟨hfits, -⟩ := exists_givesEnvironment_iff.1 ⟨_, readEnvironment_eq_ok_iff.1 henvironment⟩
    rcases bind_eq_error_iff.1 h with h | ⟨description, -, h⟩
    · obtain ⟨hl, rfl⟩ := Value.isTooLong_of_written h
      exact .inr (.description ⟨hi, hc, hs, hst, hfits⟩ hl)
    · cases h
  · simp only [not_exists] at hi
    obtain ⟨e, he⟩ := read_of_not_identifies hi t index
    rw [he] at h
    cases h
    exact .inl rfl

theorem CommandFits.exists_readCommand (h : CommandFits entries) (t : Toolchain) (name : String) :
    ∃ command, readCommand t name (valueUnder entries "command" .null) = .ok command := by
  obtain ⟨words, hwords, hne⟩ := h
  exact ⟨_, readCommand_eq_ok_iff.2 ⟨words, hwords, hne, rfl⟩⟩

theorem SeverityFits.exists_readSeverity (h : SeverityFits entries) (name : String) :
    ∃ severity, readSeverity name entries = .ok severity := by
  obtain ⟨severity, hseverity⟩ := h
  exact ⟨severity, readSeverity_eq_ok_iff.2 hseverity⟩

/-- Of a declaration that is well-formed only the environment and the description are left to read. -/
theorem read_of_isWellFormed (h : IsWellFormed value entries name) (t : Toolchain) (index : Nat) :
    ∃ finish : List (String × String) → String → FixedCheck, read t index value = do
      let environment ← readEnvironment name entries
      let description ← textUnder entries "description" ""
      return finish environment description := by
  obtain ⟨command, hcommand⟩ := h.command.exists_readCommand t name
  obtain ⟨severity, hseverity⟩ := h.severity.exists_readSeverity name
  obtain ⟨stage, hstage⟩ := h.stage
  rw [read_of_identifies h.toIdentifies, hcommand, hseverity, readStage_eq_ok_iff.2 hstage]
  exact ⟨_, rfl⟩

/-- A declaration that slips fails with its fault. -/
theorem read_of_slips (h : Slips value fault) (t : Toolchain) (index : Nat) :
    read t index value = .error fault := by
  cases h with
  | words hi hs hw =>
      rw [read_of_identifies hi, readCommand_of_defect hs hw]
      rfl
  | severity hi hc hl =>
      obtain ⟨command, hcommand⟩ := hc.exists_readCommand t _
      rw [read_of_identifies hi, hcommand, readSeverity_of_isTooLong hl]
      rfl
  | stage hi hc hs hl =>
      obtain ⟨command, hcommand⟩ := hc.exists_readCommand t _
      obtain ⟨severity, hseverity⟩ := hs.exists_readSeverity _
      rw [read_of_identifies hi, hcommand, hseverity, readStage_of_isTooLong hl]
      rfl
  | environment hf hl =>
      obtain ⟨finish, hread⟩ := read_of_isWellFormed hf t index
      rw [hread, readEnvironment_of_not_writable hl]
      rfl
  | @description entries name hf hl =>
      obtain ⟨finish, hread⟩ := read_of_isWellFormed hf t index
      by_cases hw : EnvironmentIsWritable entries
      · obtain ⟨found, hfound⟩ := exists_givesEnvironment_iff.2 ⟨hf.environment, hw⟩
        have htext : textUnder entries "description" "" = .error (.number .tooLong) := hl
        rw [hread, readEnvironment_eq_ok_iff.2 hfound, htext]
        rfl
      · rw [hread, readEnvironment_of_not_writable hw]
        rfl

/-- A declaration that is well-formed is accepted unless it slips. -/
theorem IsWellFormed.isAccepted (h : IsWellFormed value entries name)
    (hs : ∀ fault, ¬Slips value fault) : IsAccepted value := by
  refine ⟨entries, name, h, ?_, ?_⟩
  · by_contra hw
    exact hs _ (.environment h hw)
  · intro hl
    exact hs _ (.description h hl)

/-! ## All declarations -/

theorem readFrom_eq_ok_iff :
    readFrom t index values = .ok checks ↔ List.Forall₂ (Declares t) values checks := by
  induction values generalizing index checks with
  | nil => simp [readFrom, eq_comm]
  | cons value rest ih =>
      simp only [readFrom, bind_eq_ok_iff, read_eq_ok_iff, ih, pure, Except.pure, Except.ok.injEq,
        List.forall₂_cons_left_iff]
      constructor
      · rintro ⟨check, hcheck, others, hothers, rfl⟩
        exact ⟨check, others, hcheck, hothers, rfl⟩
      · rintro ⟨check, others, hcheck, hothers, rfl⟩
        exact ⟨check, hcheck, others, hothers, rfl⟩

theorem exists_readFrom_iff :
    (∃ checks, readFrom t index values = .ok checks) ↔ ∀ value ∈ values, IsAccepted value := by
  simp only [readFrom_eq_ok_iff]
  induction values with
  | nil => simp
  | cons value rest ih =>
      rw [List.forall_mem_cons, ← ih, ← exists_declares_iff (t := t)]
      simp only [List.forall₂_cons_left_iff]
      constructor
      · rintro ⟨_, check, others, hcheck, hothers, -⟩
        exact ⟨⟨check, hcheck⟩, others, hothers⟩
      · rintro ⟨⟨check, hcheck⟩, others, hothers⟩
        exact ⟨_, check, others, hcheck, hothers, rfl⟩

/-- The first declaration of a list that is not accepted slips. -/
def FirstSlips (values : List Value) (fault : Fault) : Prop :=
  ∃ before value after, values = before ++ value :: after ∧ (∀ other ∈ before, IsAccepted other) ∧
    Slips value fault

theorem readFrom_eq_error (h : readFrom t index values = .error fault) :
    fault.category = .expansion ∨ FirstSlips values fault := by
  induction values generalizing index with
  | nil => cases h
  | cons value rest ih =>
      rw [readFrom] at h
      rcases bind_eq_error_iff.1 h with h | ⟨check, hcheck, h⟩
      · rcases read_eq_error h with h | hs
        · exact .inl h
        · exact .inr ⟨[], value, rest, rfl, List.forall_mem_nil _, hs⟩
      · rcases bind_eq_error_iff.1 h with h | ⟨checks, -, h⟩
        · rcases ih h with h | ⟨before, other, after, rfl, hbefore, hs⟩
          · exact .inl h
          · have hvalue : IsAccepted value := exists_declares_iff.1 ⟨check, read_eq_ok_iff.1 hcheck⟩
            exact .inr ⟨value :: before, other, after, rfl,
              List.forall_mem_cons.2 ⟨hvalue, hbefore⟩, hs⟩
        · cases h

theorem readFrom_of_firstSlips (h : FirstSlips values fault) (t : Toolchain) (index : Nat) :
    readFrom t index values = .error fault := by
  obtain ⟨before, value, after, rfl, hbefore, hs⟩ := h
  induction before generalizing index with
  | nil =>
      rw [List.nil_append, readFrom, read_of_slips hs]
      rfl
  | cons first rest ih =>
      obtain ⟨hfirst, hrest⟩ := List.forall_mem_cons.1 hbefore
      obtain ⟨check, hcheck⟩ := exists_declares_iff.2 hfirst
      rw [List.cons_append, readFrom, read_eq_ok_iff.2 hcheck]
      refine bind_eq_error_iff.2 (.inr ⟨check, rfl, ?_⟩)
      exact bind_eq_error_iff.2 (.inl (ih (index + 1) hrest))

theorem Slips.category (h : Slips value fault) : fault.category = .badValue := by
  cases h <;> rfl

theorem expandCommand_ne_nil (ht : t.invocation ≠ []) {words : List String} (h : words ≠ []) :
    expandCommand t words ≠ [] := by
  cases words with
  | nil => exact absurd rfl h
  | cons first rest =>
      unfold expandCommand
      dsimp only
      split
      · simp [Toolchain.command, Arg.ofTexts, ht]
      · simp [Arg.ofTexts]

/-- How a list of declarations is read. -/
structure ReadsDeclarations (t : Toolchain) (values : List Value) : Prop where
  accepted_iff : (∃ checks, readAll t values = .ok checks) ↔ ∀ value ∈ values, IsAccepted value
  /-- There is one check for each declaration, in order, and each has a command. -/
  declared : ∀ checks, readAll t values = .ok checks →
    List.Forall₂ (Declares t) values checks ∧ ∀ check ∈ checks, check.command ≠ []
  /-- A fault is that of the plan, unless the first declaration that is not accepted slips. -/
  slips_iff : ∀ fault, readAll t values = .error fault ∧ fault.category ≠ .expansion ↔
    FirstSlips values fault
  /-- Where no declaration slips, exactly the well-formed ones are accepted. -/
  wellFormed_iff : (∀ value ∈ values, ∀ fault, ¬Slips value fault) →
    ((∃ checks, readAll t values = .ok checks) ↔
      ∀ value ∈ values, ∃ entries name, IsWellFormed value entries name)

/-- Declarations are read when they are well-formed and can be written, and refused by the plan unless
they slip. -/
theorem readAll_readsDeclarations (ht : t.invocation ≠ []) (values : List Value) :
    ReadsDeclarations t values := by
  constructor
  · exact exists_readFrom_iff
  · intro checks h
    have hdeclares := readFrom_eq_ok_iff.1 h
    refine ⟨hdeclares, ?_⟩
    intro check hm
    obtain ⟨_, value, hread⟩ := exists_read_of_mem h hm
    obtain ⟨entries, name, -, hg⟩ := read_eq_ok_iff.1 hread
    obtain ⟨words, -, hne, hcommand⟩ := hg.command
    rw [hcommand]
    exact expandCommand_ne_nil ht hne
  · intro fault
    constructor
    · rintro ⟨h, hcategory⟩
      exact (readFrom_eq_error h).resolve_left hcategory
    · intro hfirst
      refine ⟨readFrom_of_firstSlips hfirst t 0, ?_⟩
      obtain ⟨before, value, after, -, -, hs⟩ := hfirst
      rw [hs.category]
      exact nofun
  · intro hs
    rw [readAll, exists_readFrom_iff]
    refine forall₂_congr fun value hm => ⟨?_, ?_⟩
    · rintro ⟨entries, name, hf, -⟩
      exact ⟨entries, name, hf⟩
    · rintro ⟨entries, name, hf⟩
      exact hf.isAccepted (hs value hm)

/-- A declaration of the lint check with a command as one text, and one with a list of texts. -/
theorem readAll_readsDeclarations_semver :
    let lint := Value.map [(.text "id", .text " lint"), (.text "stage", .text "Lint"),
      (.text "command", .text "cargo clippy -- '-D warnings'")]
    let semver := Value.map [(.text "id", .text "semver"), (.text "class", .text "ADVISORY"),
      (.text "command", .list [.text "check-release"]), (.text "stage", .text "publish")]
    Toolchain.plain.invocation ≠ [] ∧
      (readAll .plain [lint, semver]).toOption = some
        [⟨"lint", Arg.ofTexts ["cargo", "clippy", "--", "-D warnings"], .blocking, .lint, "", []⟩,
          ⟨"semver", [.text "check-release"], .advisory, .publish, "", []⟩] ∧
      ReadsDeclarations .plain [lint, semver] := by
  intro lint semver
  have ht : Toolchain.plain.invocation ≠ [] := by decide
  exact ⟨ht, by decide +kernel, readAll_readsDeclarations ht _⟩

/-- A command with a quote that is not closed is no fault of the plan. -/
theorem readAll_openQuote_letThrough :
    let lint := Value.map [(.text "id", .text "lint"), (.text "command", .text "cargo 'clippy")]
    ∃ fault, readAll .plain [lint] = .error fault ∧ fault.category = .badValue ∧
      fault.message = "No closing quotation" := by
  intro lint
  have hread : ((readAll .plain [lint]).map fun _ => ()).mapError
      (fun fault => (fault.category, fault.message)) = .error (.badValue, "No closing quotation") := by
    decide +kernel
  obtain ⟨fault, hfault, he⟩ := exists_error_of_mapError hread
  obtain ⟨hcategory, hmessage⟩ := Prod.mk.inj he
  exact ⟨fault, hfault, hcategory, hmessage⟩

end FixedCheck

end Greenlight
