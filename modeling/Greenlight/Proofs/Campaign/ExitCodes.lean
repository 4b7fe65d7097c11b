import Mathlib.Data.List.Basic
import Greenlight.Proofs.Campaign.Accounting
import Greenlight.Proofs.Campaign.FailFast
import Greenlight.Report.Export
import Greenlight.Report.Printer

/-! # Exit codes

The exit code of a run that does not pass tells the cause: a failure that blocks, an advisory failure
that counts, or a stop. The printed and the exported report tell the same. -/

namespace Greenlight

/-! ## Codes and what they are read off -/

namespace Report

variable (r : Report)

theorem number_exitCode : r.exitCode.number =
    if r.passed then 0 else if r.interrupted then 130 else if r.phase = .aborted then 1 else 3 := by
  unfold exitCode
  split
  · rfl
  · split
    · rfl
    · split <;> rfl

theorem number_exitCode_mem : r.exitCode.number ∈ [0, 1, 3, 130] := by
  rw [number_exitCode]
  split
  · decide
  · split
    · decide
    · split <;> decide

theorem number_exitCode_eq_one_iff :
    r.exitCode.number = 1 ↔ r.passed = false ∧ r.interrupted = false ∧ r.phase = .aborted := by
  rw [number_exitCode]
  cases r.passed <;> cases r.interrupted <;> by_cases hp : r.phase = .aborted <;> simp [hp]

theorem number_exitCode_eq_three_iff :
    r.exitCode.number = 3 ↔ r.passed = false ∧ r.interrupted = false ∧ r.phase ≠ .aborted := by
  rw [number_exitCode]
  cases r.passed <;> cases r.interrupted <;> by_cases hp : r.phase = .aborted <;> simp [hp]

theorem number_exitCode_eq_interrupted_iff :
    r.exitCode.number = 130 ↔ r.passed = false ∧ r.interrupted = true := by
  rw [number_exitCode]
  cases r.passed <;> cases r.interrupted <;> by_cases hp : r.phase = .aborted <;> simp [hp]

theorem verdictLine_eq : r.verdictLine =
    "Release check status: " ++ if r.exitCode.number = 0 then "passed" else "failed" := by
  unfold verdictLine
  simp only [number_exitCode_eq_zero_iff]

/-- The printed report ends with the verdict. -/
theorem getLast?_lines (showOutput : Bool) : (r.lines showOutput).getLast? = some r.verdictLine := by
  rw [lines, summaryLines, ← List.append_assoc]
  exact List.getLast?_concat

/-- The verdict on a report, as it is given out: the last line that is printed, and the entries of the
exported object. -/
structure ShowsVerdict (r : Report) : Prop where
  passed_iff : r.passed = true ↔ r.exitCode.number = 0
  printed : ∀ showOutput, (r.lines showOutput).getLast? = some
    ("Release check status: " ++ if r.exitCode.number = 0 then "passed" else "failed")
  exported : ∃ fields, r.toJson = .object fields ∧
    Entries.get? fields "exit_code" = some (.int r.exitCode.number) ∧
    Entries.get? fields "overall_passed" = some (.bool r.passed)

theorem showsVerdict : r.ShowsVerdict := by
  constructor
  · exact r.number_exitCode_eq_zero_iff.symm
  · intro showOutput
    rw [getLast?_lines, verdictLine_eq]
  · exact ⟨_, rfl, by simp [Entries.get?], by simp [Entries.get?]⟩

end Report

namespace Campaign

variable {σ : Type} {setup : Setup} {sur : Surroundings σ} {policy : Policy} {tasks : List Task}
  {c after : Campaign σ} {legs : List Leg} {rest : List Task} {ending : Ending} {report : Report}

/-! ## Failures of a run -/

namespace RunSpec

/-- Without a stop, tasks are left only behind an outcome that blocks. -/
theorem exists_blocks_of_aborted
    (h : RunSpec setup sur policy tasks c legs rest ending report after)
    (hs : after.stopRequested = false) (hp : report.phase = .aborted) :
    ∃ last, report.outcomes.getLast? = some last ∧ last.blocks = true := by
  have hf := h.follows
  rw [h.tells.phase] at hp
  rw [h.getLast?_outcomes]
  cases hf with
  | drained hb => cases hp
  | stopped hstop hb =>
    rw [hs] at hstop
    cases hstop
  | @blockedBy legs last rest hb hl => exact ⟨last.outcome, by simp, hl⟩

/-- The outcome that blocks is the only one that does, and the failure that the report names. -/
theorem filter_blocks_eq (h : RunSpec setup sur policy tasks c legs rest ending report after)
    {last : Outcome} (hl : report.outcomes.getLast? = some last) (hb : last.blocks = true) :
    report.outcomes.filter Outcome.blocks = [last] ∧ report.firstFailure = some last.taskId := by
  constructor
  · rw [← List.dropLast_append_getLast? last hl, List.filter_append,
      List.filter_eq_nil_iff.2 fun o hm => by simp [h.dropLast_outcomes o hm]]
    simp [hb]
  · simp [h.firstFailure_eq, hl, Option.filter, hb]

/-- A completed run fails for an advisory failure that counts. -/
theorem passed_eq_false_iff (h : RunSpec setup sur policy tasks c legs rest ending report after)
    (hp : report.phase ≠ .aborted) : report.passed = false ↔
      (∃ o ∈ report.outcomes, o.isAdvisoryFailure = true) ∧ policy.advisoryFatal = true := by
  have hc : report.phase = .completed := h.phase_eq_completed_or_aborted.resolve_right hp
  rw [← Bool.not_eq_true, h.tells.passed_iff, h.tells.advisoryFailures]
  simp [hc, List.filter_eq_nil_iff, ← and_assoc]

/-- A run that is not aborted executed every task, and none of them blocks. -/
theorem phase_ne_aborted_iff (h : RunSpec setup sur policy tasks c legs rest ending report after) :
    report.phase ≠ .aborted ↔
      report.executedIds = tasks.map Task.id ∧ ∀ o ∈ report.outcomes, o.blocks = false := by
  have hphase : report.phase ≠ .aborted ↔ report.phase = .completed := by
    rcases h.phase_eq_completed_or_aborted with hp | hp <;> simp [hp]
  have hall : report.executedIds = tasks.map Task.id ↔ rest = [] := by
    rw [h.executedIds_eq, ← h.tasks_eq, List.map_append, List.map_map]
    exact List.self_eq_append_right.trans List.map_eq_nil_iff
  rw [hphase, h.tells.phase, h.follows.phase_eq_completed_iff, hall, h.tells.outcomes,
    List.forall_mem_map]

/-- The code of a blocking failure is that of a run without a stop whose last outcome blocks. -/
theorem exitCode_blocking_iff
    (h : RunSpec setup sur policy tasks c legs rest ending report after) :
    report.exitCode.number = 1 ↔ report.interrupted = false ∧
      ∃ last, report.outcomes.getLast? = some last ∧
        report.outcomes.filter Outcome.blocks = [last] ∧ report.firstFailure = some last.taskId := by
  rw [report.number_exitCode_eq_one_iff]
  constructor
  · rintro ⟨-, hi, hp⟩
    have hstop : after.stopRequested = false := h.tells.interrupted.symm.trans hi
    obtain ⟨last, hl, hb⟩ := h.exists_blocks_of_aborted hstop hp
    exact ⟨hi, last, hl, h.filter_blocks_eq hl hb⟩
  · rintro ⟨hi, last, hl, hfilter, -⟩
    have hb : last.blocks = true := (List.mem_filter.1 (hfilter ▸ List.mem_cons_self)).2
    have hp : report.phase = .aborted := h.phase_eq_aborted_iff.2 (.inl ⟨last, hl, hb⟩)
    exact ⟨(h.heedsStop_iff.2 hp).passed, hi, hp⟩

/-- The code of an advisory failure is that of a run without a stop that came to the end of its queue. -/
theorem exitCode_advisory_iff
    (h : RunSpec setup sur policy tasks c legs rest ending report after) :
    report.exitCode.number = 3 ↔ report.interrupted = false ∧
      report.executedIds = tasks.map Task.id ∧ (∀ o ∈ report.outcomes, o.blocks = false) ∧
      (∃ o ∈ report.outcomes, o.isAdvisoryFailure = true) ∧ policy.advisoryFatal = true := by
  rw [report.number_exitCode_eq_three_iff]
  constructor
  · rintro ⟨hfailed, hi, hp⟩
    obtain ⟨hall, hb⟩ := h.phase_ne_aborted_iff.1 hp
    exact ⟨hi, hall, hb, (h.passed_eq_false_iff hp).1 hfailed⟩
  · rintro ⟨hi, hall, hb, hfatal⟩
    have hp : report.phase ≠ .aborted := h.phase_ne_aborted_iff.2 ⟨hall, hb⟩
    exact ⟨(h.passed_eq_false_iff hp).2 hfatal, hi, hp⟩

end RunSpec

/-! ## Codes of a run -/

/-- The exit code of a run says why it does not pass. One stands for a failure that blocks: the last
outcome and no other one. Three stands for advisory failures of which none blocks, under a policy that
counts them, once every task was executed. Without a stop there is no other cause, and 130 stands for
a stop. -/
structure ExplainsCode (policy : Policy) (tasks : List Task) (stopped : List String)
    (report : Report) : Prop where
  number_mem : report.exitCode.number ∈ [0, 1, 3, 130]
  blockingFailure : report.exitCode.number = 1 ↔ stopped = [] ∧
    ∃ last, report.outcomes.getLast? = some last ∧ report.outcomes.filter Outcome.blocks = [last] ∧
      report.firstFailure = some last.taskId
  advisoryFailure : report.exitCode.number = 3 ↔ stopped = [] ∧
    report.executedIds = tasks.map Task.id ∧ (∀ o ∈ report.outcomes, o.blocks = false) ∧
    (∃ o ∈ report.outcomes, o.isAdvisoryFailure = true) ∧ policy.advisoryFatal = true
  interrupted : report.exitCode.number = 130 ↔ stopped ≠ [] ∧ report.passed = false
  shown : report.ShowsVerdict

theorem run_explainsCode (world : σ) (stops : List String)
    (h : (waiting world stops).run setup sur policy tasks = (.ok report, after)) :
    ExplainsCode policy tasks (stopsBefore stops after tasks.length) report := by
  obtain ⟨legs, rest, ending, hs⟩ := run_spec h
  have hle : legs.length ≤ tasks.length := by
    rw [← hs.length_add]
    exact Nat.le_add_right _ _
  have hstopped : report.interrupted = true ↔ stopsBefore stops after tasks.length ≠ [] := by
    rw [hs.tells.interrupted, hs.stopRequested_iff hle]
  have hunstopped : report.interrupted = false ↔ stopsBefore stops after tasks.length = [] := by
    rw [← Bool.not_eq_true, hstopped, ne_eq, Decidable.not_not]
  constructor
  · exact report.number_exitCode_mem
  · rw [hs.exitCode_blocking_iff, hunstopped]
  · rw [hs.exitCode_advisory_iff, hunstopped]
  · rw [report.number_exitCode_eq_interrupted_iff, hstopped, and_comm]
  · exact report.showsVerdict

/-- An advisory failure that counts, in a run of two tasks. -/
theorem run_explainsCode_advisory :
    let tasks := [plainTask "lint" .advisory, plainTask "docs" .blocking]
    let run := played ⟨false, true⟩ tasks [ends 1, ends 0]
    ∃ report, run.1 = .ok report ∧ report.exitCode.number = 3 ∧
      stopsBefore [] run.2 tasks.length = [] ∧
      ExplainsCode ⟨false, true⟩ tasks (stopsBefore [] run.2 tasks.length) report := by
  intro tasks run
  obtain ⟨report, h, hn⟩ : ∃ report, run.1 = .ok report ∧ report.exitCode.number = 3 :=
    ⟨_, rfl, rfl⟩
  exact ⟨report, h, hn, rfl, run_explainsCode _ [] (Prod.ext h rfl)⟩

end Campaign

end Greenlight
