import Greenlight.Proofs.Campaign.Stop

/-! # Failing fast

The first failure that blocks ends a run, and so does a stop. What the report names as the failure, and
where, follows from its outcomes. -/

namespace Greenlight.Campaign

variable {σ : Type} {setup : Setup} {sur : Surroundings σ} {policy : Policy} {tasks : List Task}
  {c after : Campaign σ} {legs : List Leg} {rest : List Task} {ending : Ending} {report : Report}

namespace RunSpec

theorem dropLast_outcomes (h : RunSpec setup sur policy tasks c legs rest ending report after) :
    ∀ o ∈ report.outcomes.dropLast, o.blocks = false := by
  rw [h.tells.outcomes, ← List.map_dropLast]
  intro o hm
  obtain ⟨leg, hleg, rfl⟩ := List.mem_map.1 hm
  exact h.follows.dropLast_goesOn leg hleg

/-- The task that ended a run is that of the last outcome, if this one blocks. -/
theorem blocker?_eq (h : RunSpec setup sur policy tasks c legs rest ending report after) :
    ending.blocker? = (report.outcomes.getLast?.filter Outcome.blocks).map Outcome.taskId := by
  rw [h.follows.blocker?_eq, h.getLast?_outcomes]
  cases hl : legs.getLast? with
  | none => rfl
  | some last =>
    have hid : last.outcome.taskId = last.task.id :=
      (h.fits last (List.mem_of_getLast? hl)).outcome.taskId
    cases hb : last.outcome.blocks <;> simp [Option.filter, hb, hid]

theorem firstFailure_eq (h : RunSpec setup sur policy tasks c legs rest ending report after) :
    report.firstFailure =
      ((report.outcomes.getLast?.filter Outcome.blocks).or
        (report.outcomes.find? Outcome.isAdvisoryFailure)).map Outcome.taskId := by
  rw [h.tells.firstFailure, h.tells.advisoryFailures, h.blocker?_eq, Option.map_or, List.head?_map,
    List.head?_filter]

end RunSpec

/-- The report of a run that fails fast. All outcomes but the last one succeed or are passed over. The
run is aborted when the last one blocks or tasks did not run, and completed otherwise. The first
failure is the one that blocks, or else the first advisory one. -/
structure FailsFast (report : Report) : Prop where
  earlier : ∀ o ∈ report.outcomes.dropLast, o.succeeded = true ∨ o.isAdvisoryFailure = true
  ended : report.phase = .completed ∨ report.phase = .aborted
  aborted_iff : report.phase = .aborted ↔
    (∃ last, report.outcomes.getLast? = some last ∧ last.blocks = true) ∨ report.notRun ≠ []
  firstFailure : report.firstFailure =
    ((report.outcomes.getLast?.filter Outcome.blocks).or
      (report.outcomes.find? Outcome.isAdvisoryFailure)).map Outcome.taskId
  advisoryFailures : report.advisoryFailures =
    (report.outcomes.filter Outcome.isAdvisoryFailure).map Outcome.taskId

/-- A run fails fast, and no command is started once a stop was requested. -/
theorem run_failsFast (world : σ) (stops : List String)
    (h : (waiting world stops).run setup sur policy tasks = (.ok report, after)) :
    FailsFast report ∧
      ∀ executed < after.asked.length, stopsBefore stops after executed = [] := by
  obtain ⟨legs, rest, ending, hs⟩ := run_spec h
  constructor
  · constructor
    · intro o hm
      exact o.blocks_eq_false_iff.1 (hs.dropLast_outcomes o hm)
    · exact hs.phase_eq_completed_or_aborted
    · exact hs.phase_eq_aborted_iff
    · exact hs.firstFailure_eq
    · exact hs.tells.advisoryFailures
  · intro executed hlt
    rw [hs.asked_eq, List.length_map] at hlt
    exact hs.stopsBefore_eq_nil hlt

/-- An advisory failure and then a blocking one: the report names the latter. -/
theorem run_failsFast_secondFailure :
    let tasks := [plainTask "lint" .advisory, plainTask "docs" .blocking, plainTask "msrv" .blocking]
    let run := played ⟨false, true⟩ tasks [ends 1, ends 2, ends 0]
    ∃ report, run.1 = .ok report ∧ report.phase = .aborted ∧ report.firstFailure = some "docs" ∧
      report.advisoryFailures = ["lint"] ∧ run.2.asked.length = 2 ∧ FailsFast report ∧
      ∀ executed < run.2.asked.length, stopsBefore [] run.2 executed = [] := by
  intro tasks run
  obtain ⟨report, h, hp, hf, ha⟩ : ∃ report, run.1 = .ok report ∧ report.phase = .aborted ∧
      report.firstFailure = some "docs" ∧ report.advisoryFailures = ["lint"] :=
    ⟨_, rfl, rfl, rfl, rfl⟩
  exact ⟨report, h, hp, hf, ha, rfl, run_failsFast _ [] (Prod.ext h rfl)⟩

end Greenlight.Campaign
