import Greenlight.Proofs.Failing
import Greenlight.Settings

/-! # Valid settings

The check of settings succeeds exactly for valid ones. -/

namespace Greenlight

/-! ## Names of stages -/

namespace Stage

theorem ofName_eq_ok_iff {name : String} {stage : Stage} :
    ofName name = .ok stage ↔ stage.name = name := by
  rw [← ofName?_eq_some_iff]
  unfold ofName
  cases ofName? name <;> simp

/-- Stages are read off a row of names when it is the row of their names. -/
theorem map_name_of_mapM_ofName {names : List String} {stages : List Stage}
    (h : names.mapM ofName = .ok stages) : stages.map name = names := by
  rw [mapM_eq_ok_iff] at h
  simp only [ofName_eq_ok_iff] at h
  induction h with
  | nil => rfl
  | cons hx _ ih => exact congrArg₂ List.cons hx ih

end Stage

namespace Settings

/-! ## The check -/

theorem refuseIf_eq_ok_iff {condition : Bool} {e : SettingsError} :
    refuseIf condition e = .ok () ↔ condition = false := by
  cases condition <;> simp [refuseIf]

theorem checkStageName_eq_ok_iff {option name : String} :
    checkStageName option name = .ok () ↔ ∃ stage : Stage, stage.name = name := by
  rw [← Stage.isSome_ofName?_iff]
  unfold checkStageName
  split
  · next h => simp [h]
  · next h => simp [h]

/-- Settings under which a campaign can be run. An undefined number counts as a limit. -/
structure Valid (s : Settings) : Prop where
  taskLimit : ¬s.taskLimit ≤ 0
  grace : ¬s.grace < 0
  previewBytes : 0 < s.previewBytes
  stageLimits : ∀ limit ∈ s.stageLimits, (∃ stage : Stage, stage.name = limit.1) ∧ ¬limit.2 ≤ 0
  skippedNames : ∀ name ∈ s.skippedNames, ∃ stage : Stage, stage.name = name
  toolchain : s.toolchain ≠ []
  flags : s.flags.eraseDups.length = s.flags.length

theorem check_eq_ok_iff {s : Settings} : s.check = .ok () ↔ s.Valid := by
  have hsteps : s.check = .ok () ↔
      ¬s.taskLimit ≤ 0 ∧ ¬s.grace < 0 ∧ ¬s.previewBytes ≤ 0 ∧
        (∀ limit ∈ s.stageLimits, (∃ stage : Stage, stage.name = limit.1) ∧ ¬limit.2 ≤ 0) ∧
        (∀ name ∈ s.skippedNames, ∃ stage : Stage, stage.name = name) ∧
        s.toolchain ≠ [] ∧ s.flags.eraseDups.length = s.flags.length := by
    unfold check
    simp only [then_eq_ok_iff, refuseIf_eq_ok_iff, forM_eq_ok_iff, checkStageName_eq_ok_iff,
      decide_eq_false_iff_not, List.isEmpty_eq_false_iff, bne_eq_false_iff_eq]
  rw [hsteps, Int.not_le]
  constructor
  · rintro ⟨ht, hg, hp, hl, hs, hc, hf⟩
    exact ⟨ht, hg, hp, hl, hs, hc, hf⟩
  · rintro ⟨ht, hg, hp, hl, hs, hc, hf⟩
    exact ⟨ht, hg, hp, hl, hs, hc, hf⟩

/-! ## Stages to skip -/

theorem mem_skippedStages {s : Settings} {skipped : List Stage} (h : s.skippedStages = .ok skipped)
    (stage : Stage) : stage ∈ skipped ↔ stage.name ∈ s.skippedNames := by
  obtain ⟨stages, hstages, rfl⟩ := map_eq_ok_iff.1 h
  rw [List.mem_eraseDups, ← Stage.map_name_of_mapM_ofName hstages, List.mem_map]
  simp only [Stage.name_inj, exists_eq_right]

theorem Valid.exists_skippedStages {s : Settings} (h : s.Valid) :
    ∃ skipped, s.skippedStages = .ok skipped := by
  have hnames : ∀ name ∈ s.skippedNames, ∃ stage, Stage.ofName name = .ok stage := fun name hm =>
    (h.skippedNames name hm).imp fun _ => Stage.ofName_eq_ok_iff.2
  obtain ⟨stages, hstages⟩ := exists_mapM_eq_ok hnames
  exact ⟨stages.eraseDups, map_eq_ok_iff.2 ⟨stages, hstages, rfl⟩⟩

end Settings

end Greenlight
