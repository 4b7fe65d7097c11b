import Greenlight.Proofs.Campaign.Run

/-! # Stop requests

No task is started once a stop was requested. A stop requested of the last task of the queue comes too
late to end the run: whether the run is aborted is then left to the outcome of that task. -/

namespace Greenlight.Campaign

variable {σ : Type} {setup : Setup} {sur : Surroundings σ} {policy : Policy} {tasks : List Task}
  {after : Campaign σ} {legs : List Leg} {rest : List Task} {ending : Ending} {report : Report}

/-- The stops requested until a number of tasks were executed and their outcomes shown: before the run,
while their commands ran and by the observer. -/
def stopsBefore (stops : List String) (after : Campaign σ) (executed : Nat) : List String :=
  stops ++ (after.asked.take executed).flatMap (·.event.stops) ++
    (after.noticed.take executed).flatMap Notice.stops

/-! ## Stops and legs -/

/-- Each leg has a notice of its own, or none has one. -/
theorem take_notices {observed : Bool} (h : ∀ leg ∈ legs, leg.notice.isSome = observed)
    (executed : Nat) :
    (legs.flatMap (·.notice.toList)).take executed =
      (legs.take executed).flatMap (·.notice.toList) := by
  cases observed with
  | false =>
    have hnil : ∀ leg ∈ legs, leg.notice.toList = [] := by
      intro leg hm
      simpa using h leg hm
    rw [List.flatMap_eq_nil_iff.2 hnil, List.take_nil]
    symm
    rw [List.flatMap_eq_nil_iff]
    exact fun leg hm => hnil leg (List.mem_of_mem_take hm)
  | true =>
    induction legs generalizing executed with
    | nil => simp
    | cons leg legs ih =>
      obtain ⟨hleg, hlegs⟩ := List.forall_mem_cons.1 h
      obtain ⟨notice, hn⟩ := Option.isSome_iff_exists.1 hleg
      cases executed with
      | zero => simp
      | succ executed => simp [hn, ih executed hlegs]

namespace RunSpec

variable {world : σ} {stops : List String}

theorem stopsBefore_eq_nil_iff
    (h : RunSpec setup sur policy tasks (waiting world stops) legs rest ending report after)
    (executed : Nat) :
    stopsBefore stops after executed = [] ↔
      stops = [] ∧ ∀ leg ∈ legs.take executed, leg.stops = [] := by
  have hn := take_notices (fun leg hm => (h.fits leg hm).observed) executed
  rw [stopsBefore, h.asked_eq, h.leads.noticed, noticed_waiting, List.nil_append, hn, ← List.map_take]
  simp only [List.append_eq_nil_iff, List.flatMap_map, List.flatMap_assoc,
    List.flatMap_eq_nil_iff, Leg.stops, and_assoc, forall_and]

/-- A task is started only while no stop was requested. -/
theorem stopsBefore_eq_nil
    (h : RunSpec setup sur policy tasks (waiting world stops) legs rest ending report after)
    {executed : Nat} (hlt : executed < legs.length) : stopsBefore stops after executed = [] := by
  rw [h.stopsBefore_eq_nil_iff]
  constructor
  · have hne : legs ≠ [] := List.ne_nil_of_length_pos (Nat.zero_lt_of_lt hlt)
    have hs : ¬stops ≠ [] := by
      rw [← stopRequested_waiting world stops, h.stopRequested_eq_false hne]
      exact Bool.false_ne_true
    exact Decidable.not_not.1 hs
  · intro leg hm
    apply h.dropLast_stops
    rw [List.dropLast_eq_take]
    exact List.take_subset_take_left _ (Nat.le_sub_one_of_lt hlt) hm

/-- The stop flag is set when a stop was requested at any time. -/
theorem stopRequested_iff
    (h : RunSpec setup sur policy tasks (waiting world stops) legs rest ending report after)
    {executed : Nat} (hle : legs.length ≤ executed) :
    after.stopRequested = true ↔ stopsBefore stops after executed ≠ [] := by
  rw [h.leads.stopRequested, stopRequested_waiting, ne_eq, ne_eq, ne_eq, h.stopsBefore_eq_nil_iff,
    List.take_of_length_le hle, List.flatMap_eq_nil_iff, Decidable.not_and_iff_or_not]

end RunSpec

/-! ## When a stop is heeded -/

/-- The run was broken off: it is aborted, does not pass and its exit code says so. -/
structure HeedsStop (report : Report) : Prop where
  phase : report.phase = .aborted
  passed : report.passed = false
  exitCode : report.exitCode.number ≠ 0

namespace RunSpec

variable {c : Campaign σ}

theorem heedsStop_iff (h : RunSpec setup sur policy tasks c legs rest ending report after) :
    HeedsStop report ↔ report.phase = .aborted := by
  refine ⟨HeedsStop.phase, fun hp => ?_⟩
  have hpassed : ¬report.passed = true := by
    rw [h.tells.passed_iff, hp]
    exact fun hc => Phase.noConfusion hc.1
  refine ⟨hp, Bool.not_eq_true _ ▸ hpassed, ?_⟩
  rwa [ne_eq, Report.number_exitCode_eq_zero_iff]

/-- Once a stop was requested, the exit code of a run that does not pass is that of an interruption. -/
theorem exitCode_of_stopRequested
    (h : RunSpec setup sur policy tasks c legs rest ending report after)
    (hs : after.stopRequested = true) :
    report.exitCode = if report.passed then .passed else .interrupted := by
  have hi : report.interrupted = true := h.tells.interrupted.trans hs
  simp [Report.exitCode, hi]

end RunSpec

/-- What becomes of a stop. It is heeded when it comes before the last task of the queue is started, or
when the last outcome blocks. Otherwise every task is executed and the run is completed, and it
passes unless advisory failures are fatal. -/
structure StopSpec (policy : Policy) (tasks : List Task) (stops : List String) (report : Report)
    (after : Campaign σ) : Prop where
  heeded_iff : HeedsStop report ↔
    stopsBefore stops after (tasks.length - 1) ≠ [] ∨
      ∃ last, report.outcomes.getLast? = some last ∧ last.blocks = true
  ignored : ¬HeedsStop report → report.phase = .completed ∧ report.notRun = [] ∧
    (report.passed = true ↔ (report.advisoryFailures ≠ [] → policy.advisoryFatal = false))
  interrupted : report.interrupted = true
  exitCode : report.exitCode = if report.passed then .passed else .interrupted

theorem run_stopSpec (world : σ) (stops : List String) (hne : tasks ≠ [])
    (h : (waiting world stops).run setup sur policy tasks = (.ok report, after))
    (hs : stopsBefore stops after tasks.length ≠ []) :
    StopSpec policy tasks stops report after := by
  obtain ⟨legs, rest, ending, hr⟩ := run_spec h
  have hpos : 0 < tasks.length := List.length_pos_iff.2 hne
  have hlength : legs.length + rest.length = tasks.length := hr.length_add
  have hle : legs.length ≤ tasks.length := by omega
  have hstop : after.stopRequested = true := (hr.stopRequested_iff hle).2 hs
  constructor
  · -- tasks are left exactly when the stop was seen at the head of a turn
    rw [hr.heedsStop_iff, hr.phase_eq_aborted_iff, or_comm, hr.tells.notRun, ne_eq,
      List.map_eq_nil_iff]
    refine or_congr_left ⟨?_, ?_⟩
    · intro hrest
      have hleft : 0 < rest.length := List.length_pos_iff.2 hrest
      have hearly : legs.length ≤ tasks.length - 1 := by omega
      exact (hr.stopRequested_iff hearly).1 hstop
    · intro hbefore hrest
      have hall : tasks.length - 1 < legs.length := by
        rw [hrest, List.length_nil] at hlength
        omega
      exact hbefore (hr.stopsBefore_eq_nil hall)
  · intro hn
    rw [hr.heedsStop_iff] at hn
    have hc : report.phase = .completed := hr.phase_eq_completed_or_aborted.resolve_right hn
    rw [hr.phase_eq_aborted_iff, not_or, ne_eq, Decidable.not_not] at hn
    refine ⟨hc, hn.2, ?_⟩
    rw [hr.tells.passed_iff]
    exact and_iff_right hc
  · exact hr.tells.interrupted.trans hstop
  · exact hr.exitCode_of_stopRequested hstop

/-- A stop that the observer requests after the first of two tasks ends the run. -/
theorem run_stopSpec_afterFirst :
    let tasks := [plainTask "lint" .advisory, plainTask "docs" .blocking]
    let run := played ⟨false, true⟩ tasks [((ends 0).1, ⟨["requested"], none⟩), ends 0]
    ∃ report, run.1 = .ok report ∧ report.phase = .aborted ∧ report.notRun = ["docs"] ∧
      StopSpec ⟨false, true⟩ tasks [] report run.2 := by
  intro tasks run
  obtain ⟨report, h, hp, hn⟩ : ∃ report, run.1 = .ok report ∧ report.phase = .aborted ∧
      report.notRun = ["docs"] := ⟨_, rfl, rfl, rfl⟩
  have hs : stopsBefore [] run.2 tasks.length = ["requested"] := rfl
  exact ⟨report, h, hp, hn, run_stopSpec _ [] (List.cons_ne_nil _ _) (Prod.ext h rfl)
    (hs ▸ List.cons_ne_nil _ _)⟩

/-- A stop that comes while the last task runs, and does not end its command, is not heeded: the run is
completed and passes. -/
theorem run_stop_ignored :
    let tasks := [plainTask "lint" .advisory, plainTask "docs" .blocking]
    let run := played ⟨false, true⟩ tasks
      [ends 0, (⟨["SIGTERM"], 0, .finished ⟨0, [], [], false, false⟩⟩, ⟨[], none⟩)]
    ∃ report, run.1 = .ok report ∧ stopsBefore [] run.2 tasks.length = ["SIGTERM"] ∧
      report.phase = .completed ∧ report.passed = true ∧ report.interrupted = true ∧
      report.exitCode.number = 0 ∧ ¬HeedsStop report :=
  ⟨_, rfl, rfl, rfl, rfl, rfl, rfl, fun h => Phase.noConfusion h.phase⟩

end Greenlight.Campaign
