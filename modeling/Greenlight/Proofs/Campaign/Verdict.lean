import Greenlight.Proofs.Campaign.Accounting

/-! # Verdicts

The exit code of a run is zero exactly when the release is good: each task ran to its own end, with status
zero or with a failure that the policy accepts. -/

namespace Greenlight

/-- The policy accepts what became of the task: it ran to its own end, and a status other than zero is
that of an advisory task under a policy that neither is strict nor counts such failures as fatal. -/
def Policy.Accepts (policy : Policy) (task : Task) (answer : Answer) : Prop :=
  ∃ status, answer.EndsWith status ∧ (status ≠ 0 →
    task.severity = .advisory ∧ policy.strictAdvisory = false ∧ policy.advisoryFatal = false)

/-- A command that ran to its own end has one status. -/
theorem Answer.EndsWith.unique {answer : Answer} {status other : Int} (h : answer.EndsWith status)
    (ho : answer.EndsWith other) : status = other := by
  cases answer with
  | notStarted cause => exact h.elim
  | broke fault => exact h.elim
  | finished result => exact h.2.2.symm.trans ho.2.2

/-- The policy accepts an answer when the outcome neither blocks nor is a fatal advisory failure. -/
theorem Outcome.Reads.accepts_iff {o : Outcome} {policy : Policy} {task : Task} {answer : Answer}
    (h : o.Reads policy task answer) :
    policy.Accepts task answer ↔
      o.blocks = false ∧ (o.isAdvisoryFailure = true → policy.advisoryFatal = false) := by
  rw [h.blocks_eq_false_iff, h.advisory_iff]
  constructor
  · rintro ⟨status, he, ha⟩
    refine ⟨⟨status, he, fun hz => ⟨(ha hz).1, (ha hz).2.1⟩⟩, ?_⟩
    rintro ⟨other, hz, ho, -⟩
    exact (ha (he.unique ho ▸ hz)).2.2
  · rintro ⟨⟨status, he, ht⟩, hf⟩
    refine ⟨status, he, fun hz => ?_⟩
    exact ⟨(ht hz).1, (ht hz).2, hf ⟨status, hz, he, ht hz⟩⟩

namespace Campaign

variable {σ : Type} {setup : Setup} {sur : Surroundings σ} {policy : Policy} {tasks : List Task}
  {c after : Campaign σ} {legs : List Leg} {rest : List Task} {ending : Ending} {report : Report}

namespace RunSpec

theorem advisoryFailures_ne_nil_iff
    (h : RunSpec setup sur policy tasks c legs rest ending report after) :
    report.advisoryFailures ≠ [] ↔ ∃ leg ∈ legs, leg.outcome.isAdvisoryFailure = true := by
  rw [h.tells.advisoryFailures, h.tells.outcomes]
  simp [List.filter_eq_nil_iff]

/-- A report passes when every task of the queue was executed and accepted. -/
theorem passed_iff (h : RunSpec setup sur policy tasks c legs rest ending report after) :
    report.passed = true ↔
      rest = [] ∧ ∀ leg ∈ legs, policy.Accepts leg.task leg.asked.event.answer := by
  have haccepts : (∀ leg ∈ legs, policy.Accepts leg.task leg.asked.event.answer) ↔
      (∀ leg ∈ legs, leg.outcome.blocks = false) ∧
        ∀ leg ∈ legs, leg.outcome.isAdvisoryFailure = true → policy.advisoryFatal = false := by
    rw [← forall₂_and]
    exact forall₂_congr fun leg hm => (h.fits leg hm).outcome.accepts_iff
  rw [h.tells.passed_iff, h.tells.phase, h.follows.phase_eq_completed_iff,
    h.advisoryFailures_ne_nil_iff, haccepts, and_assoc]
  simp only [forall_exists_index, and_imp]

end RunSpec

/-- The verdict is sound and complete. The exit code is zero exactly when the runner was asked for every
task of the queue, one by one, and the policy accepts what it answered. -/
theorem exitCode_eq_zero_iff (world : σ) (stops : List String)
    (h : (waiting world stops).run setup sur policy tasks = (.ok report, after)) :
    report.exitCode.number = 0 ↔
      List.Forall₂
        (fun (task, place) asked =>
          asked.request.IsFor setup place task ∧ policy.Accepts task asked.event.answer)
        (tasks.zipIdx 1) after.asked := by
  obtain ⟨legs, rest, ending, hs⟩ := run_spec h
  rw [report.number_exitCode_eq_zero_iff, hs.passed_iff, hs.asked_eq]
  constructor
  · rintro ⟨rfl, ha⟩
    have htasks : legs.map Leg.task = tasks := by
      rw [← hs.tasks_eq, List.append_nil]
    rw [← htasks, hs.forall₂_asked_iff]
    exact fun leg hm => ⟨(hs.fits leg hm).request, ha leg hm⟩
  · intro hall
    have hrest : rest = [] := by
      have hlength := hall.length_eq
      rw [List.length_zipIdx, List.length_map, ← hs.length_add] at hlength
      exact List.eq_nil_of_length_eq_zero (by omega)
    have htasks : legs.map Leg.task = tasks := by
      rw [← hs.tasks_eq, hrest, List.append_nil]
    rw [← htasks, hs.forall₂_asked_iff] at hall
    exact ⟨hrest, fun leg hm => (hall leg hm).2⟩

/-- A run whose first task fails but is accepted. -/
theorem exitCode_eq_zero_iff_accepted :
    let tasks := [plainTask "lint" .advisory, plainTask "docs" .blocking]
    let run := played ⟨false, false⟩ tasks [ends 7, ends 0]
    ∃ report, run.1 = .ok report ∧ report.advisoryFailures = ["lint"] ∧
      report.exitCode.number = 0 ∧
      List.Forall₂
        (fun (task, place) asked =>
          asked.request.IsFor plainSetup place task ∧
            (⟨false, false⟩ : Policy).Accepts task asked.event.answer)
        (tasks.zipIdx 1) run.2.asked := by
  intro tasks run
  obtain ⟨report, h, ha, hz⟩ : ∃ report, run.1 = .ok report ∧
      report.advisoryFailures = ["lint"] ∧ report.exitCode.number = 0 := ⟨_, rfl, rfl, rfl⟩
  exact ⟨report, h, ha, hz, (exitCode_eq_zero_iff _ [] (Prod.ext h rfl)).1 hz⟩

end Campaign

end Greenlight
