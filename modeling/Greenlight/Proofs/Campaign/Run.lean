import Greenlight.Proofs.Campaign.Derivation

/-! # Runs and their reports

A report tells the run of a queue: its legs, the tasks that are left and how it ended. -/

namespace Greenlight

open Campaign

/-! ## What a report tells -/

/-- A report says what the legs of a run came to. -/
structure Report.Tells (report : Report) (policy : Policy) (legs : List Leg) (rest : List Task)
    (ending : Ending) (stopRequested : Bool) : Prop where
  outcomes : report.outcomes = legs.map Leg.outcome
  notRun : report.notRun = rest.map Task.id
  phase : report.phase = ending.phase
  interrupted : report.interrupted = stopRequested
  advisoryFailures : report.advisoryFailures =
    (report.outcomes.filter Outcome.isAdvisoryFailure).map Outcome.taskId
  firstFailure : report.firstFailure = ending.blocker?.or report.advisoryFailures.head?
  passed_iff : report.passed = true ↔
    report.phase = .completed ∧ (report.advisoryFailures ≠ [] → policy.advisoryFatal = false)

namespace Report

theorem conclude_tells (policy : Policy) (legs : List Leg) (rest : List Task) (ending : Ending)
    (stopRequested : Bool) (seconds : Float) :
    (conclude ending.phase ending.blocker? (rest.map Task.id) policy.advisoryFatal stopRequested
      (legs.map Leg.outcome) seconds).Tells policy legs rest ending stopRequested where
  outcomes := rfl
  notRun := rfl
  phase := rfl
  interrupted := rfl
  advisoryFailures := rfl
  firstFailure := Option.orElse_eq_or
  passed_iff := by
    simp only [conclude, Bool.and_eq_true, beq_iff_eq, Bool.not_eq_true', Bool.and_eq_false_iff,
      Bool.not_eq_false', List.isEmpty_iff, ne_eq, Decidable.or_iff_not_imp_left]

/-- The exit code is zero for reports that pass. -/
theorem number_exitCode_eq_zero_iff (report : Report) :
    report.exitCode.number = 0 ↔ report.passed = true := by
  unfold exitCode
  split
  · next hp => simp [hp, ExitCode.number]
  · next hp =>
      have hn : report.passed = false := Bool.not_eq_true _ ▸ hp
      split
      · simp [hn, ExitCode.number]
      · split <;> simp [hn, ExitCode.number]

end Report

namespace Campaign

variable {σ : Type}

/-- A campaign under way, before the first of its tasks. -/
def underway (tasks : List Task) (c : Campaign σ) : Campaign σ :=
  { c with phase := .running }.note .info s!"Pipeline started with {tasks.length} task(s)"

/-- The report on a run of the queue. -/
def QueueRun.report (queue : QueueRun σ) (advisoryFatal : Bool) (started : Float) : Report :=
  Report.conclude queue.ending.phase queue.ending.blocker? (queue.notRun.map Task.id) advisoryFatal
    queue.campaign.stopRequested queue.outcomes (queue.campaign.clock - started)

variable {setup : Setup} {sur : Surroundings σ} {policy : Policy} {tasks : List Task}
  {c after : Campaign σ} {legs : List Leg} {rest : List Task} {ending : Ending} {report : Report}

/-! ## Runs from a campaign without a trace -/

/-- A campaign that has not started, with stops requested of it. -/
def waiting (world : σ) (stops : List String) : Campaign σ := (idle world).requestStops stops

@[simp] theorem asked_waiting (world : σ) (stops : List String) : (waiting world stops).asked = [] :=
  asked_requestStops stops _

@[simp] theorem seen_waiting (world : σ) (stops : List String) : (waiting world stops).seen = [] :=
  seen_requestStops stops _

@[simp] theorem noticed_waiting (world : σ) (stops : List String) :
    (waiting world stops).noticed = [] :=
  noticed_requestStops stops _

@[simp] theorem stopRequested_waiting (world : σ) (stops : List String) :
    (waiting world stops).stopRequested = true ↔ stops ≠ [] := by
  simp [waiting, idle]

theorem phase_waiting (world : σ) (stops : List String) : (waiting world stops).phase = .idle := by
  rw [waiting, requestStops_eq]
  rfl

/-! ## Runs -/

/-- A run of a campaign that has not started is a run of its queue, and has a report unless it breaks
off. -/
theorem run_eq_ok_iff (hc : c.phase = .idle) :
    c.run setup sur policy tasks = (.ok report, after) ↔
      let queue := (c.underway tasks).runQueue setup sur policy 1 tasks
      (∀ fault, queue.ending ≠ .broke fault) ∧ report = queue.report policy.advisoryFatal c.clock ∧
        after = { queue.campaign with phase := queue.ending.phase }.note .info (endingLine report) := by
  unfold run
  rw [if_neg (not_not_intro hc)]
  simp only [underway, QueueRun.report]
  generalize runQueue _ _ _ _ _ _ = queue
  cases he : queue.ending with
  | broke fault => simp
  | drained | stopped | blockedBy =>
    simp only [reduceCtorEq, not_false_eq_true, ne_eq, implies_true, true_and, Prod.mk.injEq,
      Except.ok.injEq]
    constructor
    · rintro ⟨rfl, rfl⟩
      exact ⟨rfl, rfl⟩
    · rintro ⟨rfl, rfl⟩
      exact ⟨rfl, rfl⟩

/-- Otherwise it breaks off where its queue does. -/
theorem run_eq_error_iff (hc : c.phase = .idle) {fault : Fault} :
    c.run setup sur policy tasks = (.error fault, after) ↔
      let queue := (c.underway tasks).runQueue setup sur policy 1 tasks
      queue.ending = .broke fault ∧ after = { queue.campaign with phase := .running } := by
  unfold run
  rw [if_neg (not_not_intro hc)]
  simp only [underway]
  generalize runQueue _ _ _ _ _ _ = queue
  cases he : queue.ending with
  | broke other =>
    simp only [Ending.phase, Ending.broke.injEq, Prod.mk.injEq, Except.error.injEq]
    exact and_congr_right fun _ => eq_comm
  | drained | stopped | blockedBy => simp

/-- A run that nothing breaks off has legs for the tasks up to some place of the queue. Only the last of
them may block or see a stop requested, and the report tells them. -/
structure RunSpec (setup : Setup) (sur : Surroundings σ) (policy : Policy) (tasks : List Task)
    (c : Campaign σ) (legs : List Leg) (rest : List Task) (ending : Ending) (report : Report)
    (after : Campaign σ) : Prop where
  fits : ∀ leg ∈ legs, leg.Fits setup sur policy
  tasks_eq : legs.map Leg.task ++ rest = tasks
  places_eq : legs.map Leg.place = List.range' 1 legs.length
  leads : Leads legs c after
  stopRequested_eq_false : legs ≠ [] → c.stopRequested = false
  dropLast_stops : ∀ leg ∈ legs.dropLast, leg.stops = []
  follows : ending.Follows after.stopRequested legs rest
  tells : report.Tells policy legs rest ending after.stopRequested

theorem run_spec (h : c.run setup sur policy tasks = (.ok report, after)) :
    ∃ legs rest ending, RunSpec setup sur policy tasks c legs rest ending report after := by
  unfold run at h
  split at h
  · cases h
  · dsimp only at h
    have hd := runQueue_derivation setup sur policy 1 tasks
      ({ c with phase := .running }.note .info s!"Pipeline started with {tasks.length} task(s)")
    generalize runQueue _ _ _ _ _ _ = queue at h hd
    split at h
    · cases h
    · next hb =>
        obtain ⟨legs, hq⟩ := hd hb
        cases h
        refine ⟨legs, queue.notRun, queue.ending, ?_⟩
        constructor
        · exact hq.fits
        · exact hq.tasks_eq
        · exact hq.places_eq
        · exact Grows.of_trace hq.leads rfl rfl
        · exact hq.stopRequested_eq_false
        · exact hq.dropLast_stops
        · exact hq.ending_follows
        · rw [hq.outcomes_eq]
          exact Report.conclude_tells ..

namespace RunSpec

theorem length_add (h : RunSpec setup sur policy tasks c legs rest ending report after) :
    legs.length + rest.length = tasks.length := by
  rw [← h.tasks_eq, List.length_append, List.length_map]

theorem getLast?_outcomes (h : RunSpec setup sur policy tasks c legs rest ending report after) :
    report.outcomes.getLast? = legs.getLast?.map Leg.outcome := by
  rw [h.tells.outcomes, List.getLast?_map]

theorem phase_eq_completed_or_aborted
    (h : RunSpec setup sur policy tasks c legs rest ending report after) :
    report.phase = .completed ∨ report.phase = .aborted := by
  rw [h.tells.phase]
  exact h.follows.phase_eq_completed_or_aborted

/-- A campaign is aborted when its last outcome blocks or tasks did not run. -/
theorem phase_eq_aborted_iff
    (h : RunSpec setup sur policy tasks c legs rest ending report after) :
    report.phase = .aborted ↔
      (∃ last, report.outcomes.getLast? = some last ∧ last.blocks = true) ∨ report.notRun ≠ [] := by
  rw [h.tells.phase, h.follows.phase_eq_aborted_iff, h.getLast?_outcomes, h.tells.notRun]
  simp only [Option.map_eq_some_iff, ne_eq, List.map_eq_nil_iff]
  refine or_congr_left ⟨?_, ?_⟩
  · rintro ⟨last, hl, hb⟩
    exact ⟨last.outcome, ⟨last, hl, rfl⟩, hb⟩
  · rintro ⟨_, ⟨last, hl, rfl⟩, hb⟩
    exact ⟨last, hl, hb⟩

theorem asked_eq {world : σ} {stops : List String}
    (h : RunSpec setup sur policy tasks (waiting world stops) legs rest ending report after) :
    after.asked = legs.map Leg.asked := by
  rw [h.leads.asked, asked_waiting, List.nil_append]

end RunSpec

/-! ## Played runs -/

/-- Surroundings that play events one after the other, with what the observer does about each. When none
is left, nothing can be started. -/
def playing : Surroundings (List (RunEvent × Notice)) where
  run
    | [], _ => (⟨[], 0, .notStarted "no event is left"⟩, [])
    | (event, notice) :: events, _ => (event, (event, notice) :: events)
  observe := some fun events _ _ =>
    match events with
    | [] => (⟨[], none⟩, [])
    | (_, notice) :: events => (notice, events)

/-- A command that ends on its own, and nothing else happens. -/
def ends (status : Int) : RunEvent × Notice :=
  (⟨[], 0, .finished ⟨status, [], [], false, false⟩⟩, ⟨[], none⟩)

/-- A setup without limits. -/
def plainSetup : Setup := ⟨⟨.here, []⟩, ⟨.here, ["logs"]⟩, ⟨none, []⟩, 0, 0, []⟩

/-- A task whose command is its id. -/
def plainTask (id : String) (severity : Severity) : Task := ⟨id, [.text id], severity, id, .tests, []⟩

/-- The run of plain tasks, with events that are played. -/
def played (policy : Policy) (tasks : List Task) (events : List (RunEvent × Notice)) :
    Except Fault Report × Campaign (List (RunEvent × Notice)) :=
  (idle events).run plainSetup playing policy tasks

end Campaign

end Greenlight
