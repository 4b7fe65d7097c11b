import Greenlight.Proofs.Campaign.Answer

/-! # Turns of the queue

A turn of the queue executes a task, shows its outcome to the observer and logs it. What it adds to the
trace is gathered in a leg. -/

namespace Greenlight

/-- The request of the task at a place of the queue: its command, the time limit of its stage or else
the one for all, the variables of the campaign with its own over them, and log files named after its
place. -/
structure Request.IsFor (request : Request) (setup : Setup) (place : Nat) (task : Task) : Prop where
  command : request.command.map Arg.text = task.command
  environment : ∀ name, Entries.get? request.environment name =
    (Entries.get? task.environment.reverse name).or (Entries.get? setup.environment name)
  folder : request.folder = setup.folder
  timeLimit : request.timeLimit =
    (setup.limits.perStage.lookup task.stage).or setup.limits.default
  stdoutPath : request.stdoutPath = setup.logFolder.child
    (Text.paddedNat 2 place ++ "-" ++ Setup.plainName task.id ++ ".stdout.log")
  stderrPath : request.stderrPath = setup.logFolder.child
    (Text.paddedNat 2 place ++ "-" ++ Setup.plainName task.id ++ ".stderr.log")
  grace : request.grace = setup.grace
  limit : request.limit = some setup.previewBytes
  watchesStop : request.watchesStop = true

theorem Setup.request_isFor (setup : Setup) {task : Task} {command : List String} (place : Nat)
    (h : task.commandTexts = .ok command) :
    (setup.request task command (some place) true).IsFor setup place task where
  command := Task.ofTexts_of_commandTexts h
  environment name := Entries.get?_merge _ _ name
  folder := rfl
  timeLimit := TimeLimits.of_eq_lookup _ _
  stdoutPath := by simp [request, logStem]
  stderrPath := by simp [request, logStem]
  grace := rfl
  limit := rfl
  watchesStop := rfl

namespace Campaign

variable {σ : Type}

/-! ## Growing traces -/

/-- What a run adds to: the requests, the outcomes shown, the notices and the stop flag. -/
def trace (c : Campaign σ) : List Asked × List (Task × Outcome) × List Notice × Bool :=
  (c.asked, c.seen, c.noticed, c.stopRequested)

/-- The trace of a campaign grows by requests, outcomes shown and notices; the stops among these events
set the stop flag. -/
structure Grows (c : Campaign σ) (asked : List Asked) (seen : List (Task × Outcome))
    (noticed : List Notice) (stops : List String) (next : Campaign σ) : Prop where
  asked : next.asked = c.asked ++ asked
  seen : next.seen = c.seen ++ seen
  noticed : next.noticed = c.noticed ++ noticed
  stopRequested : next.stopRequested = true ↔ c.stopRequested = true ∨ stops ≠ []

namespace Grows

variable {c next last : Campaign σ} {asked asked' : List Asked} {seen seen' : List (Task × Outcome)}
  {noticed noticed' : List Notice} {stops stops' : List String}

theorem refl (c : Campaign σ) : c.Grows [] [] [] [] c := by
  constructor <;> simp

theorem trans (h : c.Grows asked seen noticed stops next)
    (hn : next.Grows asked' seen' noticed' stops' last) :
    c.Grows (asked ++ asked') (seen ++ seen') (noticed ++ noticed') (stops ++ stops') last := by
  constructor
  · rw [hn.asked, h.asked, List.append_assoc]
  · rw [hn.seen, h.seen, List.append_assoc]
  · rw [hn.noticed, h.noticed, List.append_assoc]
  · rw [hn.stopRequested, h.stopRequested, or_assoc]
    simp only [ne_eq, List.append_eq_nil_iff, Decidable.not_and_iff_or_not]

/-- The log, the phase, the world and the clock do not matter. -/
theorem of_trace {c' next' : Campaign σ} (h : c.Grows asked seen noticed stops next)
    (hc : c'.trace = c.trace) (hn : next'.trace = next.trace) :
    c'.Grows asked seen noticed stops next' := by
  simp only [trace, Prod.mk.injEq] at hc hn
  obtain ⟨hca, hcs, hcn, hcf⟩ := hc
  obtain ⟨hna, hns, hnn, hnf⟩ := hn
  constructor
  · rw [hca, hna, h.asked]
  · rw [hcs, hns, h.seen]
  · rw [hcn, hnn, h.noticed]
  · rw [hcf, hnf, h.stopRequested]

end Grows

theorem trace_noteOutcome (task : Task) (o : Outcome) (remaining : Nat) (c : Campaign σ) :
    (c.noteOutcome task o remaining).trace = c.trace := by
  obtain ⟨level, message, hn⟩ := noteOutcome_eq_note task o remaining c
  rw [hn]
  rfl

/-! ## Executing a task -/

theorem ask_grows (sur : Surroundings σ) (request : Request) (c : Campaign σ) :
    c.Grows [⟨request, (c.ask sur request).1, (c.ask sur request).2.stopRequested⟩] [] []
      (c.ask sur request).1.stops (c.ask sur request).2 := by
  constructor <;> simp

/-- A task whose command is a row of texts is asked of the runner once. -/
theorem execute_grows (setup : Setup) (sur : Surroundings σ) {task : Task} {command : List String}
    (hc : task.commandTexts = .ok command) (sequence : Option Int) (watchesStop : Bool)
    (c : Campaign σ) :
    ∃ asked seconds, asked.request = setup.request task command sequence watchesStop ∧
      (sur.run c.world asked.request).1 = asked.event ∧
      c.Grows [asked] [] [] asked.event.stops (c.execute setup sur task sequence watchesStop).2 ∧
      (c.execute setup sur task sequence watchesStop).1 =
        judge setup task asked.request seconds asked.event.answer := by
  unfold execute
  simp only [hc]
  exact ⟨_, _, rfl, rfl, (ask_grows sur _ (c.note _ _)).of_trace rfl rfl, rfl⟩

/-- A task that is executed is asked of the runner once, and its outcome says what the runner answered.
Nothing is shown. -/
theorem runTask_eq_ok {setup : Setup} {sur : Surroundings σ} {policy : Policy} {place : Nat}
    {task : Task} {o : Outcome} {c next : Campaign σ}
    (h : c.runTask setup sur policy place task = (.ok o, next)) :
    ∃ asked : Asked, asked.request.IsFor setup place task ∧
      (∃ world, (sur.run world asked.request).1 = asked.event) ∧
      o.Reads policy task asked.event.answer ∧ c.Grows [asked] [] [] asked.event.stops next := by
  unfold runTask at h
  cases hc : task.commandTexts with
  | error fault =>
    obtain rfl := Task.commandTexts_eq_error hc
    simp only [execute, hc] at h
    cases h
  | ok command =>
    obtain ⟨asked, seconds, hr, ha, hg, hj⟩ := execute_grows setup sur hc (some place) true
      (c.note .info s!"Task {task.id} started: {task.description}")
    refine ⟨asked, hr ▸ setup.request_isFor place hc, ⟨c.world, ha⟩, ?_⟩
    dsimp only at h
    split at h
    · next outcome after he =>
        rw [he] at hg hj
        cases h
        exact ⟨judge_eq_ok policy hj.symm, hg.of_trace rfl rfl⟩
    · next id cause after he =>
        rw [he] at hg hj
        cases h
        exact ⟨judge_eq_notExecuted policy hj.symm, hg.of_trace rfl rfl⟩
    · cases h

/-! ## Showing an outcome -/

/-- An outcome is shown once if there is an observer, which then gives notice. -/
theorem show_grows (sur : Surroundings σ) (task : Task) (o : Outcome) (c : Campaign σ) :
    ∃ notice : Option Notice, notice.isSome = sur.observe.isSome ∧
      c.Grows [] (notice.map fun _ => (task, o)).toList notice.toList
        (notice.toList.flatMap Notice.stops) (c.show_ sur task o).2 := by
  unfold show_
  cases sur.observe with
  | none => exact ⟨none, rfl, .refl c⟩
  | some observe =>
    refine ⟨some (observe c.world task o).1, rfl, ?_⟩
    constructor <;> simp

/-! ## The legs of a run -/

/-- What one turn of the queue adds to the trace. -/
structure Leg where
  task : Task
  /-- The place of the task in the queue, counted from one. -/
  place : Nat
  asked : Asked
  outcome : Outcome
  /-- What the observer did, if there is one. -/
  notice : Option Notice

namespace Leg

/-- The stops requested in a turn, while the command ran and by the observer. -/
def stops (leg : Leg) : List String :=
  leg.asked.event.stops ++ leg.notice.toList.flatMap Notice.stops

/-- What a turn shows. -/
def shown (leg : Leg) : List (Task × Outcome) :=
  (leg.notice.map fun _ => (leg.task, leg.outcome)).toList

/-- A leg tells a turn truly: its request is that of its task, what happened is the runner's doing, its
outcome says what the runner answered, and the outcome was shown if there is an observer. -/
structure Fits (leg : Leg) (setup : Setup) (sur : Surroundings σ) (policy : Policy) : Prop where
  request : leg.asked.request.IsFor setup leg.place leg.task
  answered : ∃ world, (sur.run world leg.asked.request).1 = leg.asked.event
  outcome : leg.outcome.Reads policy leg.task leg.asked.event.answer
  observed : leg.notice.isSome = sur.observe.isSome

end Leg

/-- Legs lead from one campaign to another, whose trace has grown by theirs. -/
def Leads (legs : List Leg) (c next : Campaign σ) : Prop :=
  c.Grows (legs.map Leg.asked) (legs.flatMap Leg.shown) (legs.flatMap (·.notice.toList))
    (legs.flatMap Leg.stops) next

theorem Leads.trans {legs more : List Leg} {c next last : Campaign σ} (h : Leads legs c next)
    (hm : Leads more next last) : Leads (legs ++ more) c last := by
  have hg := Grows.trans h hm
  simpa only [Leads, List.map_append, List.flatMap_append] using hg

/-- A turn that nothing breaks off has a leg. -/
theorem turn_leg {setup : Setup} {sur : Surroundings σ} {policy : Policy} {place : Nat} {task : Task}
    {o : Outcome} {c ran seen : Campaign σ} (remaining : Nat)
    (hr : c.runTask setup sur policy place task = (.ok o, ran))
    (hs : ran.show_ sur task o = (none, seen)) :
    ∃ leg : Leg, leg.task = task ∧ leg.place = place ∧ leg.outcome = o ∧
      leg.Fits setup sur policy ∧ Leads [leg] c (seen.noteOutcome task o remaining) := by
  obtain ⟨asked, hfor, ha, hreads, hasked⟩ := runTask_eq_ok hr
  obtain ⟨notice, hobserved, hshown⟩ := show_grows sur task o ran
  rw [hs] at hshown
  have hg := (hasked.trans hshown).of_trace rfl (trace_noteOutcome task o remaining seen)
  refine ⟨⟨task, place, asked, o, notice⟩, rfl, rfl, rfl, ⟨hfor, ha, hreads, hobserved⟩, ?_⟩
  simpa [Leads, Leg.shown, Leg.stops] using hg

end Campaign

end Greenlight
