import Greenlight.Proofs.Campaign.Accounting

/-! # Runs under two policies

Whether advisory failures are fatal decides the verdict only. A strict policy cuts a run off behind its
first advisory failure, which then blocks; a run without advisory failures is the same under it. -/

namespace Greenlight

/-- The observer does not look at what a failure weighs. -/
def Surroundings.IgnoresWeight {σ : Type} (sur : Surroundings σ) : Prop :=
  ∀ observe, sur.observe = some observe →
    ∀ world task o, observe world task o.escalate = observe world task o

namespace Outcome

theorem blocks_escalate {o : Outcome} (h : o.isAdvisoryFailure = true) : o.escalate.blocks = true := by
  simp only [isAdvisoryFailure, Bool.and_eq_true] at h
  simp [blocks, escalate, h.1]

end Outcome

namespace Campaign

variable {σ : Type} {setup : Setup} {sur : Surroundings σ} {policy : Policy} {tasks : List Task}
  {c ran seen : Campaign σ} {task : Task} {o : Outcome}

/-! ## What a policy does to a turn -/

theorem weigh_lax (fatal : Bool) (o : Outcome) : weigh ⟨false, fatal⟩ o = o := by
  simp [weigh]

theorem weigh_strict (fatal : Bool) (o : Outcome) :
    weigh ⟨true, fatal⟩ o = if o.isAdvisoryFailure then o.escalate else o := by
  simp [weigh]

/-- Whether advisory failures are fatal does not matter to a task. -/
theorem runTask_fatal (strict fatal other : Bool) (place : Nat) (task : Task) (c : Campaign σ) :
    c.runTask setup sur ⟨strict, fatal⟩ place task = c.runTask setup sur ⟨strict, other⟩ place task :=
  rfl

/-- Under a strict policy a task has the same outcome, weighed anew. -/
theorem runTask_strict {fatal : Bool} {place : Nat} {answer : Except Fault Outcome}
    (h : c.runTask setup sur ⟨false, fatal⟩ place task = (answer, ran)) :
    c.runTask setup sur ⟨true, fatal⟩ place task =
      (answer.map fun o => if o.isAdvisoryFailure then o.escalate else o, ran) := by
  unfold runTask at h ⊢
  dsimp only at h ⊢
  split at h
  · cases h
    rw [weigh_lax, weigh_strict]
    rfl
  · cases h
    rfl
  · next fault after hne he =>
      cases h
      rfl

/-- A strict policy escalates the outcome of an advisory task that fails. -/
theorem runTask_strict_of_advisory {fatal : Bool} {place : Nat}
    (hr : c.runTask setup sur ⟨false, fatal⟩ place task = (.ok o, ran))
    (ho : o.isAdvisoryFailure = true) :
    c.runTask setup sur ⟨true, fatal⟩ place task = (.ok o.escalate, ran) := by
  simp only [runTask_strict hr, Except.map, if_pos ho]

/-- A strict policy leaves any other outcome as it is. -/
theorem runTask_strict_of_not_advisory {fatal : Bool} {place : Nat}
    (hr : c.runTask setup sur ⟨false, fatal⟩ place task = (.ok o, ran))
    (ho : o.isAdvisoryFailure = false) :
    c.runTask setup sur ⟨true, fatal⟩ place task = (.ok o, ran) := by
  simp only [runTask_strict hr, Except.map, ho, Bool.false_eq_true, if_false]

/-- An observer that does not look at the weight does the same about an escalated outcome. -/
theorem show_escalate (hw : sur.IgnoresWeight) {fault : Option Fault}
    (h : c.show_ sur task o = (fault, seen)) :
    ∃ shown, c.show_ sur task o.escalate = (fault, { seen with seen := shown }) := by
  unfold show_ at h ⊢
  cases ho : sur.observe with
  | none =>
    rw [ho] at h
    cases h
    exact ⟨c.seen, rfl⟩
  | some observe =>
    simp only [ho] at h
    cases h
    simp only [hw observe ho]
    exact ⟨_, rfl⟩

/-! ## Requests are only added -/

theorem asked_noteOutcome (task : Task) (o : Outcome) (remaining : Nat) (c : Campaign σ) :
    (c.noteOutcome task o remaining).asked = c.asked :=
  congrArg (·.1) (trace_noteOutcome task o remaining c)

theorem asked_execute_prefix (setup : Setup) (sur : Surroundings σ) (task : Task)
    (sequence : Option Int) (watchesStop : Bool) (c : Campaign σ) :
    c.asked <+: (c.execute setup sur task sequence watchesStop).2.asked := by
  cases hc : task.commandTexts with
  | error fault => simp [execute, hc]
  | ok command =>
    obtain ⟨asked, -, -, -, hg, -⟩ := execute_grows setup sur hc sequence watchesStop c
    exact ⟨[asked], hg.asked.symm⟩

theorem asked_runTask_prefix (setup : Setup) (sur : Surroundings σ) (policy : Policy) (place : Nat)
    (task : Task) (c : Campaign σ) :
    c.asked <+: (c.runTask setup sur policy place task).2.asked := by
  have he := asked_execute_prefix setup sur task (some place) true
    (c.note .info s!"Task {task.id} started: {task.description}")
  unfold runTask
  dsimp only
  split <;> next h => rwa [h] at he

theorem asked_show (sur : Surroundings σ) (task : Task) (o : Outcome) (c : Campaign σ) :
    (c.show_ sur task o).2.asked = c.asked := by
  obtain ⟨_, -, hg⟩ := show_grows sur task o c
  rw [hg.asked, List.append_nil]

theorem asked_turn_prefix {place : Nat} {fault : Option Fault}
    (hr : c.runTask setup sur policy place task = (.ok o, ran))
    (hw : ran.show_ sur task o = (fault, seen)) : c.asked <+: seen.asked := by
  have hrun := asked_runTask_prefix setup sur policy place task c
  have hshow := asked_show sur task o ran
  rw [hr] at hrun
  rw [hw] at hshow
  rwa [hshow]

theorem asked_runQueue_prefix (setup : Setup) (sur : Surroundings σ) (policy : Policy) (place : Nat)
    (tasks : List Task) (c : Campaign σ) :
    c.asked <+: (c.runQueue setup sur policy place tasks).campaign.asked := by
  fun_induction runQueue setup sur policy place tasks c with
  | case1 place c => exact List.prefix_rfl
  | case2 place task rest c hs => exact List.prefix_rfl
  | case3 place task rest c hs fault ran hr =>
    have hrun := asked_runTask_prefix setup sur policy place task c
    rwa [hr] at hrun
  | case4 place task rest c hs o ran hr fault seen hw => exact asked_turn_prefix hr hw
  | case5 place task rest c hs o ran hr seen hw noted hb =>
    have hnoted : noted.asked = seen.asked := asked_noteOutcome ..
    exact hnoted ▸ asked_turn_prefix hr hw
  | case6 place task rest c hs o ran hr seen hw noted hb run ih =>
    have hnoted : noted.asked = seen.asked := asked_noteOutcome ..
    exact (hnoted ▸ asked_turn_prefix hr hw).trans ih

/-! ## Equations of the queue -/

section Equations

variable {place : Nat} {rest : List Task}

theorem runQueue_of_stopRequested (hs : c.stopRequested = true) :
    c.runQueue setup sur policy place (task :: rest) = ⟨.stopped, [], task :: rest, c⟩ := by
  simp [runQueue, hs]

theorem runQueue_of_runTask_error (hs : ¬c.stopRequested = true) {fault : Fault}
    (hr : c.runTask setup sur policy place task = (.error fault, ran)) :
    c.runQueue setup sur policy place (task :: rest) = ⟨.broke fault, [], rest, ran⟩ := by
  simp [runQueue, hs, hr]

theorem runQueue_of_show_fault (hs : ¬c.stopRequested = true) {fault : Fault}
    (hr : c.runTask setup sur policy place task = (.ok o, ran))
    (hw : ran.show_ sur task o = (some fault, seen)) :
    c.runQueue setup sur policy place (task :: rest) = ⟨.broke fault, [o], rest, seen⟩ := by
  simp [runQueue, hs, hr, hw]

theorem runQueue_of_blocks (hs : ¬c.stopRequested = true)
    (hr : c.runTask setup sur policy place task = (.ok o, ran))
    (hw : ran.show_ sur task o = (none, seen)) (hb : o.blocks = true) :
    c.runQueue setup sur policy place (task :: rest) =
      ⟨.blockedBy task.id, [o], rest, seen.noteOutcome task o rest.length⟩ := by
  simp [runQueue, hs, hr, hw, hb]

theorem runQueue_of_goesOn (hs : ¬c.stopRequested = true)
    (hr : c.runTask setup sur policy place task = (.ok o, ran))
    (hw : ran.show_ sur task o = (none, seen)) (hb : ¬o.blocks = true) :
    c.runQueue setup sur policy place (task :: rest) =
      let run := (seen.noteOutcome task o rest.length).runQueue setup sur policy (place + 1) rest
      { run with outcomes := o :: run.outcomes } := by
  simp [runQueue, hs, hr, hw, hb]

end Equations

/-! ## Runs of the queue -/

/-- A strict run of a queue cuts a lax one off at its first advisory failure, which then blocks, unless
the observer breaks off both. -/
structure CutsOff (lax strict : QueueRun σ) (earlier : List Outcome) (o : Outcome)
    (later : List Outcome) : Prop where
  lax_outcomes : lax.outcomes = earlier ++ o :: later
  earlier_goesOn : ∀ x ∈ earlier, x.isAdvisoryFailure = false
  advisory : o.isAdvisoryFailure = true
  strict_outcomes : strict.outcomes = earlier ++ [o.escalate]
  ending : strict.ending = .blockedBy o.taskId ∨
    ∃ fault, lax.ending = .broke fault ∧ strict.ending = .broke fault
  asked : strict.campaign.asked <+: lax.campaign.asked

/-- The first turn in which an advisory task fails is the last one of a strict run. -/
theorem CutsOff.of_goesOn {fatal : Bool} {place : Nat} {rest : List Task} {shown : List (Task × Outcome)}
    (hid : o.taskId = task.id) (ho : o.isAdvisoryFailure = true) :
    let noted := seen.noteOutcome task o rest.length
    let run := noted.runQueue setup sur ⟨false, fatal⟩ place rest
    CutsOff { run with outcomes := o :: run.outcomes }
      ⟨.blockedBy task.id, [o.escalate], rest,
        noteOutcome task o.escalate rest.length { seen with seen := shown }⟩ [] o run.outcomes := by
  intro noted run
  refine ⟨rfl, List.forall_mem_nil _, ho, rfl, .inl (hid ▸ rfl), ?_⟩
  have hp := asked_runQueue_prefix setup sur ⟨false, fatal⟩ place rest noted
  rw [asked_noteOutcome] at hp
  rwa [asked_noteOutcome]

theorem CutsOff.cons {lax strict : QueueRun σ} {earlier later : List Outcome} {first : Outcome}
    (hf : first.isAdvisoryFailure = false) (h : CutsOff lax strict earlier o later) :
    CutsOff { lax with outcomes := first :: lax.outcomes }
      { strict with outcomes := first :: strict.outcomes } (first :: earlier) o later where
  lax_outcomes := congrArg (first :: ·) h.lax_outcomes
  earlier_goesOn := List.forall_mem_cons.2 ⟨hf, h.earlier_goesOn⟩
  advisory := h.advisory
  strict_outcomes := congrArg (first :: ·) h.strict_outcomes
  ending := h.ending
  asked := h.asked

theorem runQueue_fatal (strict fatal other : Bool) (place : Nat) (tasks : List Task)
    (c : Campaign σ) :
    c.runQueue setup sur ⟨strict, fatal⟩ place tasks =
      c.runQueue setup sur ⟨strict, other⟩ place tasks := by
  induction tasks generalizing place c with
  | nil => rfl
  | cons task rest ih => simp only [runQueue, runTask_fatal strict fatal other, ih]

/-- A queue is run the same under a strict policy, unless it is cut off at an advisory failure. -/
theorem runQueue_strict (hw : sur.IgnoresWeight) (setup : Setup) (fatal : Bool) (place : Nat)
    (tasks : List Task) (c : Campaign σ) :
    let lax := c.runQueue setup sur ⟨false, fatal⟩ place tasks
    let strict := c.runQueue setup sur ⟨true, fatal⟩ place tasks
    strict = lax ∧ (∀ o ∈ lax.outcomes, o.isAdvisoryFailure = false) ∨
      ∃ earlier o later, CutsOff lax strict earlier o later := by
  fun_induction runQueue setup sur ⟨false, fatal⟩ place tasks c with
  | case1 place c => exact .inl ⟨rfl, List.forall_mem_nil _⟩
  | case2 place task rest c hs =>
    rw [runQueue_of_stopRequested hs]
    exact .inl ⟨rfl, List.forall_mem_nil _⟩
  | case3 place task rest c hs fault ran hr =>
    rw [runQueue_of_runTask_error hs (runTask_strict hr)]
    exact .inl ⟨rfl, List.forall_mem_nil _⟩
  | case4 place task rest c hs o ran hr fault seen hsh =>
    cases ho : o.isAdvisoryFailure with
    | true =>
      obtain ⟨shown, hss⟩ := show_escalate hw hsh
      rw [runQueue_of_show_fault hs (runTask_strict_of_advisory hr ho) hss]
      exact .inr ⟨[], o, [], rfl, List.forall_mem_nil _, ho, rfl, .inr ⟨fault, rfl, rfl⟩,
        List.prefix_rfl⟩
    | false =>
      rw [runQueue_of_show_fault hs (runTask_strict_of_not_advisory hr ho) hsh]
      exact .inl ⟨rfl, List.forall_mem_singleton.2 ho⟩
  | case5 place task rest c hs o ran hr seen hsh noted hb =>
    have ho := o.isAdvisoryFailure_of_blocks hb
    rw [runQueue_of_blocks hs (runTask_strict_of_not_advisory hr ho) hsh hb]
    exact .inl ⟨rfl, List.forall_mem_singleton.2 ho⟩
  | case6 place task rest c hs o ran hr seen hsh noted hb run ih =>
    cases ho : o.isAdvisoryFailure with
    | true =>
      obtain ⟨shown, hss⟩ := show_escalate hw hsh
      rw [runQueue_of_blocks hs (runTask_strict_of_advisory hr ho) hss (Outcome.blocks_escalate ho)]
      obtain ⟨_, -, -, hreads, -⟩ := runTask_eq_ok hr
      exact .inr ⟨[], o, run.outcomes, .of_goesOn hreads.taskId ho⟩
    | false =>
      rw [runQueue_of_goesOn hs (runTask_strict_of_not_advisory hr ho) hsh hb]
      rcases ih with ⟨he, hn⟩ | ⟨earlier, x, later, hc⟩
      · rw [he]
        exact .inl ⟨rfl, List.forall_mem_cons.2 ⟨ho, hn⟩⟩
      · exact .inr ⟨o :: earlier, x, later, hc.cons ho⟩

/-! ## Runs -/

/-- A report has no advisory failures when none of its outcomes is one. -/
theorem QueueRun.advisoryFailures_report_eq_nil_iff (queue : QueueRun σ) (advisoryFatal : Bool)
    (started : Float) :
    (queue.report advisoryFatal started).advisoryFailures = [] ↔
      ∀ o ∈ queue.outcomes, o.isAdvisoryFailure = false := by
  simp [QueueRun.report, Report.conclude, List.filter_eq_nil_iff]

theorem passed_iff_of_run {report : Report} {after : Campaign σ}
    (h : c.run setup sur policy tasks = (.ok report, after)) :
    report.passed = true ↔
      report.phase = .completed ∧ (report.advisoryFailures ≠ [] → policy.advisoryFatal = false) := by
  obtain ⟨_, _, _, hs⟩ := run_spec h
  exact hs.tells.passed_iff

/-- Whether advisory failures are fatal matters to the verdict, and to the log line on it. -/
theorem run_fatal (hc : c.phase = .idle) {strict fatal : Bool} (other : Bool) {report : Report}
    {after : Campaign σ} (h : c.run setup sur ⟨strict, fatal⟩ tasks = (.ok report, after)) :
    ∃ passed log, c.run setup sur ⟨strict, other⟩ tasks =
      (.ok { report with passed }, { after with log }) := by
  obtain ⟨hb, rfl, rfl⟩ := (run_eq_ok_iff hc).1 h
  rw [runQueue_fatal strict fatal other] at hb ⊢
  exact ⟨_, _, (run_eq_ok_iff hc).2 ⟨hb, rfl, rfl⟩⟩

/-- Without advisory failures the strict run is the same. -/
theorem run_strict_unchanged (hw : sur.IgnoresWeight) (hc : c.phase = .idle) {fatal : Bool}
    {report : Report} {after : Campaign σ}
    (h : c.run setup sur ⟨false, fatal⟩ tasks = (.ok report, after))
    (hn : report.advisoryFailures = []) :
    c.run setup sur ⟨true, fatal⟩ tasks = (.ok report, after) := by
  obtain ⟨hb, rfl, rfl⟩ := (run_eq_ok_iff hc).1 h
  rw [QueueRun.advisoryFailures_report_eq_nil_iff] at hn
  rcases runQueue_strict hw setup fatal 1 tasks (c.underway tasks) with
    ⟨he, -⟩ | ⟨earlier, o, later, hcut⟩
  · rw [run_eq_ok_iff hc, he]
    exact ⟨hb, rfl, rfl⟩
  · have hno := hn o (hcut.lax_outcomes ▸ List.mem_append_right _ List.mem_cons_self)
    rw [hcut.advisory] at hno
    cases hno

/-- The strict run ends with the first advisory failure, which then blocks. -/
theorem run_strict_cutOff (hw : sur.IgnoresWeight) (hc : c.phase = .idle) {fatal : Bool}
    {report : Report} {after : Campaign σ}
    (h : c.run setup sur ⟨false, fatal⟩ tasks = (.ok report, after))
    (hn : report.advisoryFailures ≠ []) :
    ∃ earlier o later strict seen, report.outcomes = earlier ++ o :: later ∧
      o.isAdvisoryFailure = true ∧ (∀ x ∈ earlier, x.isAdvisoryFailure = false) ∧
      c.run setup sur ⟨true, fatal⟩ tasks = (.ok strict, seen) ∧
      strict.outcomes = earlier ++ [o.escalate] ∧ strict.phase = .aborted ∧
      strict.firstFailure = some o.taskId ∧ strict.advisoryFailures = [] ∧
      seen.asked <+: after.asked := by
  obtain ⟨hb, rfl, rfl⟩ := (run_eq_ok_iff hc).1 h
  rw [ne_eq, QueueRun.advisoryFailures_report_eq_nil_iff] at hn
  rcases runQueue_strict hw setup fatal 1 tasks (c.underway tasks) with
    ⟨-, hno⟩ | ⟨earlier, o, later, hcut⟩
  · exact absurd hno hn
  · have hend := hcut.ending.resolve_right fun ⟨fault, hlax, _⟩ => hb fault hlax
    refine ⟨earlier, o, later, _, _, hcut.lax_outcomes, hcut.advisory, hcut.earlier_goesOn,
      (run_eq_ok_iff hc).2 ⟨?_, rfl, rfl⟩, hcut.strict_outcomes, ?_, ?_, ?_, hcut.asked⟩
    · simp [hend]
    · simp [QueueRun.report, Report.conclude, hend, Ending.phase]
    · simp [QueueRun.report, Report.conclude, hend, Ending.blocker?]
    · rw [QueueRun.advisoryFailures_report_eq_nil_iff, hcut.strict_outcomes,
        List.forall_mem_append, List.forall_mem_singleton]
      exact ⟨hcut.earlier_goesOn, o.isAdvisoryFailure_escalate⟩

/-- A strict run that passes is the same as the lax one, in which no advisory task failed. -/
theorem run_lax_of_passed (hw : sur.IgnoresWeight) (hc : c.phase = .idle) {fatal : Bool}
    {report : Report} {after : Campaign σ}
    (h : c.run setup sur ⟨true, fatal⟩ tasks = (.ok report, after)) (hp : report.passed = true) :
    c.run setup sur ⟨false, fatal⟩ tasks = (.ok report, after) ∧ report.advisoryFailures = [] := by
  obtain ⟨hphase, -⟩ := (passed_iff_of_run h).1 hp
  obtain ⟨hb, rfl, rfl⟩ := (run_eq_ok_iff hc).1 h
  rcases runQueue_strict hw setup fatal 1 tasks (c.underway tasks) with
    ⟨he, hno⟩ | ⟨earlier, o, later, hcut⟩
  · rw [he] at hb ⊢
    exact ⟨(run_eq_ok_iff hc).2 ⟨hb, rfl, rfl⟩,
      (QueueRun.advisoryFailures_report_eq_nil_iff ..).2 hno⟩
  · have hend := hcut.ending.resolve_right fun ⟨fault, _, hstrict⟩ => hb fault hstrict
    simp [QueueRun.report, Report.conclude, hend, Ending.phase] at hphase

/-- How the runs of a campaign under the policies compare. -/
structure Refines (run : Policy → Except Fault Report × Campaign σ) : Prop where
  /-- Whether advisory failures are fatal matters to the verdict only. -/
  fatal : ∀ strict fatal other report after, run ⟨strict, fatal⟩ = (.ok report, after) →
    ∃ passed log, run ⟨strict, other⟩ = (.ok { report with passed }, { after with log })
  /-- Without advisory failures the strict run is the same. -/
  unchanged : ∀ fatal report after, run ⟨false, fatal⟩ = (.ok report, after) →
    report.advisoryFailures = [] → run ⟨true, fatal⟩ = (.ok report, after)
  /-- Otherwise the strict run ends with the first of them, which then blocks. -/
  cutOff : ∀ fatal report after, run ⟨false, fatal⟩ = (.ok report, after) →
    report.advisoryFailures ≠ [] → ∃ earlier o later strict seen,
      report.outcomes = earlier ++ o :: later ∧ o.isAdvisoryFailure = true ∧
      (∀ x ∈ earlier, x.isAdvisoryFailure = false) ∧
      run ⟨true, fatal⟩ = (.ok strict, seen) ∧ strict.outcomes = earlier ++ [o.escalate] ∧
      strict.phase = .aborted ∧ strict.firstFailure = some o.taskId ∧
      strict.advisoryFailures = [] ∧ seen.asked = after.asked.take (earlier.length + 1)
  /-- What passes under a strict policy passes when advisory failures are fatal. -/
  passes_fatal : ∀ fatal report after, run ⟨true, fatal⟩ = (.ok report, after) →
    report.passed = true → ∃ report after, run ⟨false, true⟩ = (.ok report, after) ∧
      report.passed = true
  /-- What passes then passes when they are not. -/
  passes_lax : ∀ report after, run ⟨false, true⟩ = (.ok report, after) → report.passed = true →
    ∃ report after, run ⟨false, false⟩ = (.ok report, after) ∧ report.passed = true

/-- A stricter policy refines the run of a campaign. -/
theorem run_refines (hw : sur.IgnoresWeight) (setup : Setup) (tasks : List Task) (world : σ)
    (stops : List String) :
    Refines fun policy => (waiting world stops).run setup sur policy tasks := by
  have hidle := phase_waiting world stops
  constructor
  · intro strict fatal other report after h
    exact run_fatal hidle other h
  · intro fatal report after h hn
    exact run_strict_unchanged hw hidle h hn
  · intro fatal report after h hn
    obtain ⟨earlier, o, later, strict, seen, ho, ha, he, hrun, hos, hp, hf, hnone, hasked⟩ :=
      run_strict_cutOff hw hidle h hn
    refine ⟨earlier, o, later, strict, seen, ho, ha, he, hrun, hos, hp, hf, hnone, ?_⟩
    obtain ⟨legs, _, _, hs⟩ := run_spec hrun
    -- there is one request for each outcome
    have hlength : seen.asked.length = earlier.length + 1 := by
      rw [hs.asked_eq, List.length_map, ← hs.length_outcomes, hos, List.length_append,
        List.length_singleton]
    rw [List.prefix_iff_eq_take.1 hasked, hlength]
  · intro fatal report after h hp
    obtain ⟨hlax, hn⟩ := run_lax_of_passed hw hidle h hp
    obtain ⟨passed, log, hfatal⟩ := run_fatal hidle true hlax
    refine ⟨_, _, hfatal, (passed_iff_of_run hfatal).2 ⟨((passed_iff_of_run h).1 hp).1, ?_⟩⟩
    exact fun hne => absurd hn hne
  · intro report after h hp
    obtain ⟨passed, log, hlax⟩ := run_fatal hidle false h
    refine ⟨_, _, hlax, (passed_iff_of_run hlax).2 ⟨((passed_iff_of_run h).1 hp).1, ?_⟩⟩
    exact fun _ => rfl

/-- Of two advisory failures the strict run sees the first one only. -/
theorem run_refines_firstFailure :
    let tasks := [plainTask "fmt" .blocking, plainTask "lint" .advisory, plainTask "docs" .advisory]
    let run := fun policy => played policy tasks [ends 0, ends 1, ends 2]
    ∃ report strict, (run ⟨false, true⟩).1 = .ok report ∧ (run ⟨true, true⟩).1 = .ok strict ∧
      report.advisoryFailures = ["lint", "docs"] ∧ strict.executedIds = ["fmt", "lint"] ∧
      strict.firstFailure = some "lint" ∧ Refines run := by
  intro tasks run
  have hw : playing.IgnoresWeight := by
    rintro observe h world task o
    cases h
    cases world <;> rfl
  exact ⟨_, _, rfl, rfl, rfl, rfl, rfl, run_refines hw plainSetup tasks _ []⟩

end Campaign

end Greenlight
