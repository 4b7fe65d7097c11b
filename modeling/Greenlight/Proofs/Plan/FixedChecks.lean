import Greenlight.Plan.FixedCheck
import Greenlight.Proofs.Failing

/-! # Reading fixed checks

A declared check has what its declaration says, and no fixed check belongs to a stage whose tasks are
found in the crate. -/

namespace Greenlight.FixedCheck

variable {t : Toolchain} {index : Nat} {values : List Value} {value : Value} {check : FixedCheck}
  {checks : List FixedCheck}

/-! ## What is read -/

/-- A check that is read from a mapping has what stands under the keys of the mapping. -/
theorem exists_of_read (h : read t index value = .ok check) :
    ∃ entries id, value.content = .map entries ∧ check.id = Text.strip id ∧
      readCommand t id ((Value.lookup entries "command").getD .null) = .ok check.command ∧
      readSeverity id entries = .ok check.severity ∧ readStage id entries = .ok check.stage ∧
      readEnvironment id entries = .ok check.environment ∧
      textUnder entries "description" "" = .ok check.description := by
  unfold read at h
  split at h
  · next entries hentries =>
      split at h
      · next id _ =>
          split at h
          · cases h
          · simp only [bind_eq_ok_iff] at h
            obtain ⟨command, hcommand, severity, hseverity, stage, hstage, environment, henvironment,
              description, hdescription, h⟩ := h
            cases h
            exact ⟨entries, id, hentries, rfl, hcommand, hseverity, hstage, henvironment,
              hdescription⟩
      · cases h
  · cases h

/-- Each check of a list is read from one of its values. -/
theorem exists_read_of_mem (h : readFrom t index values = .ok checks) (hm : check ∈ checks) :
    ∃ index value, read t index value = .ok check := by
  induction values generalizing index checks with
  | nil =>
    cases h
    cases hm
  | cons value rest ih =>
    unfold readFrom at h
    simp only [bind_eq_ok_iff] at h
    obtain ⟨first, hfirst, others, hothers, h⟩ := h
    cases h
    rcases List.mem_cons.1 hm with rfl | hm
    · exact ⟨index, value, hfirst⟩
    · exact ih hothers hm

/-! ## Stages -/

theorem isDiscovered_of_readStage {id : String} {entries : List (Datum × Value)} {stage : Stage}
    (h : readStage id entries = .ok stage) : stage.isDiscovered = false := by
  unfold readStage at h
  obtain ⟨name, -, h⟩ := bind_eq_ok_iff.1 h
  split at h
  · split at h
    · cases h
    · next hd =>
        cases h
        exact Bool.not_eq_true _ ▸ hd
  · obtain ⟨shown, -, h⟩ := bind_eq_ok_iff.1 h
    cases h

theorem isDiscovered_of_readFrom (h : readFrom t index values = .ok checks) :
    ∀ check ∈ checks, check.stage.isDiscovered = false := by
  intro check hm
  obtain ⟨_, _, hread⟩ := exists_read_of_mem h hm
  obtain ⟨_, _, -, -, -, -, hstage, -⟩ := exists_of_read hread
  exact isDiscovered_of_readStage hstage

theorem isDiscovered_of_mem_defaults :
    ∀ check ∈ defaults t, check.stage.isDiscovered = false := by
  simp [defaults, Stage.isDiscovered]

end Greenlight.FixedCheck
