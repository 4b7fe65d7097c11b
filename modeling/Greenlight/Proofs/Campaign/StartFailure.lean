import Greenlight.Proofs.Campaign.Accounting
import Greenlight.Proofs.Process.Start

/-! # Commands that cannot be started

A command that cannot be started is the outcome of its task, and ends the run. Only a log folder that
cannot be made breaks a run off, or a process that outlives being killed. -/

namespace Greenlight

/-- The world holds a file tree in which each request is run, by a launcher that is lawful. -/
def Surroundings.Spawns {σ : Type} (sur : Surroundings σ) (files : σ → FileTree) : Prop :=
  ∀ world request, ∃ launcher : Runner.Launcher, launcher.IsLawful ∧
    Runner.run launcher (files world) request =
      ((sur.run world request).1.answer, files (sur.run world request).2)

/-- The command of the task is a row of texts. -/
def Task.IsRunnable (task : Task) : Prop := ∃ command, task.commandTexts = .ok command

theorem Outcome.blocks_ofStartFailure (task : Task) (message : String) :
    (ofStartFailure task message).blocks = true := rfl

/-- A result has an outcome when it timed out only under a time limit. -/
theorem Outcome.exists_ofResult {request : Request} {result : ProcessResult}
    (h : result.timedOut = true → request.timeLimit ≠ none) (task : Task) (previewBytes : Int)
    (seconds : Float) :
    ∃ o, ofResult task request previewBytes result seconds = .ok o := by
  cases ho : ofResult task request previewBytes result seconds with
  | ok o => exact ⟨o, rfl⟩
  | error fault =>
    unfold ofResult at ho
    dsimp only at ho
    split at ho
    · next ht =>
        split at ho
        · next hn => exact absurd hn (h ht)
        · cases ho
    · split at ho
      · cases ho
      · split at ho <;> cases ho

namespace Campaign

variable {σ : Type} {setup : Setup} {sur : Surroundings σ} {files : σ → FileTree} {policy : Policy}
  {tasks : List Task} {task : Task} {command : List String} {c ran after : Campaign σ}
  {fault : Fault} {report : Report}

/-! ## Executing a task -/

/-- Once a request is settled, the task has an outcome or could not be executed, or its process is left
behind. -/
theorem judge_of_settles {launcher : Runner.Launcher} {request : Request} {answer : Answer}
    (h : Runner.Settles launcher request answer) (setup : Setup) (task : Task) (seconds : Float) :
    (∃ o, judge setup task request seconds answer = .ok o) ∨
      (∃ cause, judge setup task request seconds answer = .error (.notExecuted task.id cause)) ∨
      answer = .broke (.outlived request.command) ∧
        judge setup task request seconds answer = .error (.outlived request.command) := by
  cases h with
  | finished hl => exact .inl (Outcome.exists_ofResult hl task setup.previewBytes seconds)
  | notStarted cause => exact .inr (.inl ⟨cause, rfl⟩)
  | outlived => exact .inr (.inr ⟨rfl, rfl⟩)

/-- What the answer that a process was left behind says of its watch. -/
theorem exists_outlives_of_answer (hs : sur.Spawns files) {world : σ} {request : Request}
    {command : List String} (h : (sur.run world request).1.answer = .broke (.outlived command)) :
    command = request.command ∧ ∃ start looks reactions count last,
      (Watch.Terms.ofRequest start request).watch looks reactions count = some (.outlived, last) ∧
        (looks last).exited = none ∧ (reactions last).Outlives := by
  obtain ⟨launcher, hl, hrun⟩ := hs world request
  have hfrom := Runner.run_answersFrom launcher (files world) request
  rw [hrun, h] at hfrom
  cases hfrom with
  | files hf => simp at hf
  | senseless hlaunch => exact absurd hlaunch (hl.sensible _ _ _ _)
  | outlived hlaunch => exact ⟨rfl, hl.watches.exists_outlives ⟨_, _, hlaunch⟩⟩

/-- The making of the log folder decides whether the runner answers. -/
theorem answer_of_spawns (hs : sur.Spawns files) {request : Request} {sequence : Option Int}
    {watchesStop : Bool} (hr : request = setup.request task command sequence watchesStop)
    (world : σ) :
    (∃ made, setup.makeLogFolder (files world) = .ok made ∧
        ∃ launcher, Runner.Settles launcher request (sur.run world request).1.answer) ∨
      ∃ fault, setup.makeLogFolder (files world) = .error fault ∧
        (sur.run world request).1.answer = .broke fault := by
  obtain ⟨launcher, hl, hrun⟩ := hs world request
  cases hm : setup.makeLogFolder (files world) with
  | ok made =>
    have hsettles := Runner.settles_run hl hm task command sequence watchesStop
    dsimp only at hsettles
    rw [← hr, hrun] at hsettles
    exact .inl ⟨made, rfl, launcher, hsettles⟩
  | error fault =>
    have hbroke := Runner.run_of_makeLogFolder_error hm launcher task command sequence watchesStop
    rw [← hr, hrun] at hbroke
    exact .inr ⟨fault, rfl, congrArg Prod.fst hbroke⟩

/-- The execution of a task where the log folder can be made. -/
theorem execute_of_makeLogFolder_ok (hs : sur.Spawns files) (hc : task.IsRunnable) {made : FileTree}
    (hm : setup.makeLogFolder (files c.world) = .ok made) (sequence : Option Int) (watchesStop : Bool) :
    (∃ o, (c.execute setup sur task sequence watchesStop).1 = .ok o) ∨
      (∃ cause, (c.execute setup sur task sequence watchesStop).1 =
        .error (.notExecuted task.id cause)) ∨
      ∃ command, task.commandTexts = .ok command ∧
        (sur.run c.world (setup.request task command sequence watchesStop)).1.answer =
          .broke (.outlived command) ∧
        (c.execute setup sur task sequence watchesStop).1 = .error (.outlived command) := by
  obtain ⟨command, hc⟩ := hc
  obtain ⟨asked, seconds, hr, ha, -, hj⟩ := execute_grows setup sur hc sequence watchesStop c
  rw [hj, ← ha]
  rcases answer_of_spawns hs hr c.world with ⟨_, -, launcher, hsettles⟩ | ⟨fault, hfault, -⟩
  · refine (judge_of_settles hsettles setup task seconds).imp_right (Or.imp_right ?_)
    rintro ⟨hanswer, hjudge⟩
    rw [hr] at hanswer hjudge ⊢
    exact ⟨command, hc, hanswer, hjudge⟩
  · rw [hm] at hfault
    cases hfault

/-- The execution of a task where it cannot. -/
theorem execute_of_makeLogFolder_error (hs : sur.Spawns files) (hc : task.IsRunnable)
    (hm : setup.makeLogFolder (files c.world) = .error fault) (sequence : Option Int)
    (watchesStop : Bool) :
    (c.execute setup sur task sequence watchesStop).1 = .error fault := by
  obtain ⟨command, hc⟩ := hc
  obtain ⟨asked, seconds, hr, ha, -, hj⟩ := execute_grows setup sur hc sequence watchesStop c
  rw [hj, ← ha]
  rcases answer_of_spawns hs hr c.world with ⟨_, hmade, -⟩ | ⟨other, hother, hbroke⟩
  · rw [hm] at hmade
    cases hmade
  · rw [hm] at hother
    cases hother
    rw [hbroke]
    rfl

/-! ## Runs that break off -/

/-- The request came when the log folder could not be made, for the given reason. -/
def LacksFolder (setup : Setup) (sur : Surroundings σ) (files : σ → FileTree) (fault : Fault)
    (asked : Asked) : Prop :=
  ∃ world, (sur.run world asked.request).1 = asked.event ∧
    setup.makeLogFolder (files world) = .error fault

/-- The process of the request is left behind, for the given reason. -/
def LeftBehind (fault : Fault) (asked : Asked) : Prop :=
  fault = .outlived asked.request.command ∧ asked.event.answer = .broke fault

/-- The turn of a task breaks off only where the log folder cannot be made, or at a process that is left
behind. -/
theorem runTask_eq_error (hs : sur.Spawns files) (hc : task.IsRunnable) {place : Nat}
    (h : c.runTask setup sur policy place task = (.error fault, ran)) :
    ∃ asked, ran.asked = c.asked ++ [asked] ∧
      (LacksFolder setup sur files fault asked ∨ LeftBehind fault asked) := by
  obtain ⟨command, hc⟩ := hc
  obtain ⟨asked, seconds, hr, ha, hg, hj⟩ := execute_grows setup sur hc (some (place : Int)) true
    (c.note .info s!"Task {task.id} started: {task.description}")
  unfold runTask at h
  dsimp only at h
  split at h
  · cases h
  · cases h
  · next other next hne hother =>
      cases h
      rw [hother] at hj hg
      refine ⟨asked, hg.asked, ?_⟩
      rcases answer_of_spawns hs hr c.world with ⟨_, -, launcher, hsettles⟩ | ⟨reason, hfolder, hbroke⟩
      · -- a request that is settled leaves the task an outcome, or a fault that became one
        rw [show (sur.run c.world asked.request).1 = asked.event from ha] at hsettles
        rcases judge_of_settles hsettles setup task seconds with
          ⟨o, ho⟩ | ⟨cause, hcause⟩ | ⟨hanswer, hjudge⟩
        · exact absurd (hj.trans ho) nofun
        · exact absurd (Except.error.inj (hj.trans hcause)) (hne _ _)
        · obtain rfl := Except.error.inj (hj.trans hjudge)
          exact .inr ⟨rfl, hanswer⟩
      · refine .inl ⟨c.world, ha, ?_⟩
        rw [show (sur.run c.world asked.request).1 = asked.event from ha] at hbroke
        rw [hbroke] at hj
        cases hj
        exact hfolder

theorem show_eq_fault {o : Outcome} {seen : Campaign σ}
    (h : c.show_ sur task o = (some fault, seen)) :
    ∃ notice, seen.noticed.getLast? = some notice ∧ notice.fault = some fault := by
  unfold show_ at h
  split at h
  · cases h
  · obtain ⟨hfault, rfl⟩ := Prod.mk.inj h
    exact ⟨_, List.getLast?_concat .., hfault⟩

/-- A run of the queue breaks off only where the log folder cannot be made, at a process that is left behind
or at the observer. -/
theorem runQueue_broke (hs : sur.Spawns files) {place : Nat}
    (htasks : ∀ task ∈ tasks, task.IsRunnable)
    (h : (c.runQueue setup sur policy place tasks).ending = .broke fault) :
    let last := (c.runQueue setup sur policy place tasks).campaign
    (∃ asked, last.asked.getLast? = some asked ∧
      (LacksFolder setup sur files fault asked ∨ LeftBehind fault asked)) ∨
      ∃ notice, last.noticed.getLast? = some notice ∧ notice.fault = some fault := by
  fun_induction runQueue setup sur policy place tasks c with
  | case1 place c => cases h
  | case2 place task rest c hstop => cases h
  | case3 place task rest c hstop other ran hr =>
    cases h
    obtain ⟨asked, hasked, hlacks⟩ := runTask_eq_error hs (List.forall_mem_cons.1 htasks).1 hr
    exact .inl ⟨asked, by simp [hasked], hlacks⟩
  | case4 place task rest c hstop o ran hr other seen hw =>
    cases h
    exact .inr (show_eq_fault hw)
  | case5 place task rest c hstop o ran hr seen hw noted hb => cases h
  | case6 place task rest c hstop o ran hr seen hw noted hb run ih =>
    exact ih (List.forall_mem_cons.1 htasks).2 h

/-! ## What becomes of a command that is not started -/

namespace RunSpec

variable {legs : List Leg} {rest : List Task} {ending : Ending} {world : σ} {stops : List String}

/-- A request whose command is not started is the last one. -/
theorem getLast?_of_notStarted
    (h : RunSpec setup sur policy tasks (waiting world stops) legs rest ending report after)
    {leg : Leg} (hm : leg ∈ legs) {cause : String} (ha : leg.asked.event.answer = .notStarted cause) :
    legs.getLast? = some leg ∧
      leg.outcome = Outcome.ofStartFailure leg.task (Fault.notExecuted leg.task.id cause).message := by
  have hread := (h.fits leg hm).outcome.startFailure cause ha
  have hb : leg.outcome.blocks = true := hread ▸ Outcome.blocks_ofStartFailure _ _
  refine ⟨?_, hread⟩
  have hne : legs ≠ [] := List.ne_nil_of_mem hm
  rw [List.getLast?_eq_some_getLast hne]
  rw [← List.dropLast_concat_getLast hne, List.mem_append, List.mem_singleton] at hm
  rcases hm with hm | rfl
  · rw [h.follows.dropLast_goesOn leg hm] at hb
    cases hb
  · rfl

end RunSpec

/-- What becomes of commands that cannot be started. -/
structure RecordsStartFailures (setup : Setup) (sur : Surroundings σ) (files : σ → FileTree) :
    Prop where
  /-- Where the log folder can be made, a task has an outcome or could not be executed, unless its process
  is left behind. -/
  executed : ∀ (c : Campaign σ) task sequence watchesStop made, task.IsRunnable →
    setup.makeLogFolder (files c.world) = .ok made →
    (∃ o, (c.execute setup sur task sequence watchesStop).1 = .ok o) ∨
      (∃ cause, (c.execute setup sur task sequence watchesStop).1 =
        .error (.notExecuted task.id cause)) ∨
      ∃ command, task.commandTexts = .ok command ∧
        (sur.run c.world (setup.request task command sequence watchesStop)).1.answer =
          .broke (.outlived command) ∧
        (c.execute setup sur task sequence watchesStop).1 = .error (.outlived command)
  /-- Only a process that still ran when it was killed, and did not end, is left behind. -/
  leftBehind : ∀ world request command,
    (sur.run world request).1.answer = .broke (.outlived command) →
    command = request.command ∧ ∃ start looks reactions count last,
      (Watch.Terms.ofRequest start request).watch looks reactions count = some (.outlived, last) ∧
        (looks last).exited = none ∧ (reactions last).Outlives
  /-- Where it cannot, the fault is let through. -/
  letThrough : ∀ (c : Campaign σ) task sequence watchesStop fault, task.IsRunnable →
    setup.makeLogFolder (files c.world) = .error fault →
    (c.execute setup sur task sequence watchesStop).1 = .error fault
  /-- A run breaks off only at a task whose log folder cannot be made or whose process is left behind, or at
  the observer. -/
  broken : ∀ policy tasks world stops fault after, (∀ task ∈ tasks, task.IsRunnable) →
    (waiting world stops).run setup sur policy tasks = (.error fault, after) →
    (∃ asked, after.asked.getLast? = some asked ∧
      (LacksFolder setup sur files fault asked ∨ LeftBehind fault asked)) ∨
      ∃ notice, after.noticed.getLast? = some notice ∧ notice.fault = some fault
  /-- A command that is not started is recorded as the failure of its task, and ends the run. -/
  recorded : ∀ policy tasks world stops report after,
    (waiting world stops).run setup sur policy tasks = (.ok report, after) →
    ∀ asked ∈ after.asked, ∀ cause, asked.event.answer = .notStarted cause →
      ∃ task, tasks[report.outcomes.length - 1]? = some task ∧
        report.outcomes.getLast? =
          some (Outcome.ofStartFailure task (Fault.notExecuted task.id cause).message) ∧
        after.asked.getLast? = some asked ∧ report.phase = .aborted

/-- Commands that cannot be started are recorded, whatever the files are, as long as the log folder can
be made. -/
theorem run_recordsStartFailures (hs : sur.Spawns files) (setup : Setup) :
    RecordsStartFailures setup sur files := by
  constructor
  · intro c task sequence watchesStop made hc hm
    exact execute_of_makeLogFolder_ok hs hc hm sequence watchesStop
  · intro world request command h
    exact exists_outlives_of_answer hs h
  · intro c task sequence watchesStop fault hc hm
    exact execute_of_makeLogFolder_error hs hc hm sequence watchesStop
  · intro policy tasks world stops fault after htasks h
    obtain ⟨hb, rfl⟩ := (run_eq_error_iff (phase_waiting world stops)).1 h
    exact runQueue_broke hs htasks hb
  · intro policy tasks world stops report after h asked hm cause ha
    obtain ⟨legs, rest, ending, hr⟩ := run_spec h
    rw [hr.asked_eq] at hm
    obtain ⟨leg, hleg, rfl⟩ := List.mem_map.1 hm
    obtain ⟨hlast, ho⟩ := hr.getLast?_of_notStarted hleg ha
    have houtcome : report.outcomes.getLast? = some leg.outcome := by
      rw [hr.getLast?_outcomes, hlast]
      rfl
    have hb : leg.outcome.blocks = true := ho ▸ Outcome.blocks_ofStartFailure _ _
    refine ⟨leg.task, ?_, ho ▸ houtcome, ?_, hr.phase_eq_aborted_iff.2 (.inl ⟨_, houtcome, hb⟩)⟩
    · have hpos : 0 < legs.length := List.length_pos_of_mem hleg
      rw [hr.length_outcomes, ← hr.tasks_eq, List.getElem?_append_left (by rw [List.length_map]; omega),
        List.getElem?_map, ← List.getLast?_eq_getElem?, hlast]
      rfl
    · rw [hr.asked_eq, List.getLast?_map, hlast]
      rfl

/-- Surroundings in which a launcher runs the commands, and nobody looks on. -/
def spawning (launcher : Runner.Launcher) : Surroundings FileTree where
  run t request :=
    let (answer, t) := Runner.run launcher t request
    (⟨[], 0, answer⟩, t)
  observe := none

theorem spawning_spawns {launcher : Runner.Launcher} (hl : launcher.IsLawful) :
    (spawning launcher).Spawns id :=
  fun _ _ => ⟨launcher, hl, rfl⟩

/-- A launcher for which no command is there. -/
def findingNone : Runner.Launcher := fun t request =>
  (.refused .missing (FileError.message ⟨.missing, request.command.headD ""⟩), t)

/-- A command that is not there is recorded as the failure of its task. -/
theorem run_recordsStartFailures_noCommand :
    let tasks := [plainTask "lint" .advisory, plainTask "docs" .blocking]
    let run := (waiting FileTree.empty []).run plainSetup (spawning findingNone) ⟨false, false⟩ tasks
    (run.1.toOption.map fun report =>
      (report.phase, report.outcomes.map fun o => (o.effective, o.failureKind, o.error))) =
        some (.aborted, [(.blocking, some .notStarted,
          some "Task lint could not start: Command not found: lint")]) ∧
      RecordsStartFailures plainSetup (spawning findingNone) id := by
  intro tasks run
  have hl : findingNone.IsLawful := by
    constructor <;> simp [findingNone, Runner.Launcher.Watches]
  exact ⟨by decide +kernel, run_recordsStartFailures (spawning_spawns hl) plainSetup⟩

/-- A regular file in the place of the log folder breaks a run off: its fault is not that a task could
not be executed, and no report is drawn up. -/
theorem run_broken_byLogFile :
    let t := FileTree.empty.plant "logs" (.file [] false)
    let tasks := [plainTask "lint" .advisory, plainTask "docs" .blocking]
    let run := (waiting t []).run plainSetup (spawning findingNone) ⟨false, false⟩ tasks
    (match run.1 with
      | .error fault => some fault.category
      | .ok _ => none) = some (.file .exists) ∧ run.2.phase = .running := by
  decide +kernel

end Campaign

end Greenlight
