import Mathlib.Data.List.Forall2
import Greenlight.Proofs.Campaign.Run

/-! # Accounting for the tasks of a run

No task is lost, repeated or moved: the report, the runner and the observer all see the tasks up to some
place of the queue, one by one and in order. -/

namespace Greenlight.Campaign

variable {σ : Type} {setup : Setup} {sur : Surroundings σ} {policy : Policy} {tasks : List Task}
  {c after : Campaign σ} {legs : List Leg} {rest : List Task} {ending : Ending} {report : Report}

/-! ## Legs and tasks -/

namespace RunSpec

theorem length_outcomes (h : RunSpec setup sur policy tasks c legs rest ending report after) :
    report.outcomes.length = legs.length := by
  rw [h.tells.outcomes, List.length_map]

theorem take_tasks (h : RunSpec setup sur policy tasks c legs rest ending report after) :
    tasks.take legs.length = legs.map Leg.task := by
  rw [← h.tasks_eq, List.take_left' (List.length_map _)]

theorem executedIds_eq (h : RunSpec setup sur policy tasks c legs rest ending report after) :
    report.executedIds = legs.map (·.task.id) := by
  rw [Report.executedIds, h.tells.outcomes, List.map_map]
  exact List.map_congr_left fun leg hm => (h.fits leg hm).outcome.taskId

/-- The place of a leg counts its task from one. -/
theorem zipIdx_tasks (h : RunSpec setup sur policy tasks c legs rest ending report after) :
    (legs.map Leg.task).zipIdx 1 = legs.map fun leg => (leg.task, leg.place) := by
  rw [List.zipIdx_eq_zip_range', List.length_map, ← h.places_eq, List.zip_map']

/-- What holds of every leg holds of the executed tasks and their requests, one by one. -/
theorem forall₂_asked_iff (h : RunSpec setup sur policy tasks c legs rest ending report after)
    (holds : Task × Nat → Asked → Prop) :
    List.Forall₂ holds ((legs.map Leg.task).zipIdx 1) (legs.map Leg.asked) ↔
      ∀ leg ∈ legs, holds (leg.task, leg.place) leg.asked := by
  rw [h.zipIdx_tasks, List.forall₂_map_left_iff, List.forall₂_map_right_iff, List.forall₂_same]

end RunSpec

/-- What an observer was shown: every outcome, with its task. -/
theorem flatMap_shown {observed : Bool} (h : ∀ leg ∈ legs, leg.notice.isSome = observed) :
    legs.flatMap Leg.shown =
      if observed then legs.map fun leg => (leg.task, leg.outcome) else [] := by
  induction legs with
  | nil => simp
  | cons leg legs ih =>
    obtain ⟨hleg, hlegs⟩ := List.forall_mem_cons.1 h
    rw [List.flatMap_cons, ih hlegs]
    subst hleg
    cases hn : leg.notice <;> simp [Leg.shown, hn]

/-! ## The accounts -/

/-- The accounts of a run. The executed tasks and those that did not run make up the queue. The runner
was asked for each executed task once, with its own request. The observer, if there is one, saw each of
them once with its outcome. -/
structure Accounts (setup : Setup) (sur : Surroundings σ) (tasks : List Task) (report : Report)
    (after : Campaign σ) : Prop where
  ids : report.executedIds ++ report.notRun = tasks.map Task.id
  requests : List.Forall₂
    (fun (task, place) asked =>
      asked.request.IsFor setup place task ∧ ∃ world, (sur.run world asked.request).1 = asked.event)
    ((tasks.take report.outcomes.length).zipIdx 1) after.asked
  shown : after.seen =
    if sur.observe.isSome then (tasks.take report.outcomes.length).zip report.outcomes else []

theorem run_accounts (world : σ) (stops : List String)
    (h : (waiting world stops).run setup sur policy tasks = (.ok report, after)) :
    Accounts setup sur tasks report after := by
  obtain ⟨legs, rest, ending, hs⟩ := run_spec h
  have htake : tasks.take report.outcomes.length = legs.map Leg.task := by
    rw [hs.length_outcomes, hs.take_tasks]
  refine ⟨?_, ?_, ?_⟩
  · rw [hs.executedIds_eq, hs.tells.notRun, ← hs.tasks_eq, List.map_append, List.map_map]
    rfl
  · rw [htake, hs.asked_eq, hs.forall₂_asked_iff]
    exact fun leg hm => ⟨(hs.fits leg hm).request, (hs.fits leg hm).answered⟩
  · rw [htake, hs.leads.seen, seen_waiting, List.nil_append, hs.tells.outcomes, List.zip_map']
    exact flatMap_shown fun leg hm => (hs.fits leg hm).observed

/-- The accounts of a run in which one of two tasks of the same id cannot be started. -/
theorem run_accounts_startFailure :
    let tasks := [plainTask "lint" .advisory, plainTask "docs" .advisory, plainTask "docs" .blocking]
    let run := played ⟨false, true⟩ tasks [ends 3]
    ∃ report, run.1 = .ok report ∧ report.executedIds = ["lint", "docs"] ∧
      report.notRun = ["docs"] ∧ Accounts plainSetup playing tasks report run.2 := by
  intro tasks run
  obtain ⟨report, h, he, hn⟩ : ∃ report, run.1 = .ok report ∧
      report.executedIds = ["lint", "docs"] ∧ report.notRun = ["docs"] := ⟨_, rfl, rfl, rfl⟩
  exact ⟨report, h, he, hn, run_accounts _ [] (Prod.ext h rfl)⟩

end Greenlight.Campaign
