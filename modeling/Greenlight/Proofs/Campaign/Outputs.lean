import Greenlight.Proofs.Campaign.LogPaths
import Greenlight.Proofs.Campaign.StartFailure
import Greenlight.Proofs.Process.Tails

/-! # Outputs of outcomes

What an outcome shows of a command comes from its log files through the runner. Main statement: with a limit
above zero it is the end of each output and of each log, as long as the limit allows, in every outcome of a
report. -/

namespace Greenlight

/-- The world holds a file tree in which each request is run. -/
def Surroundings.RunsIn {σ : Type} (sur : Surroundings σ) (files : σ → FileTree) : Prop :=
  ∀ world request, ∃ launcher : Runner.Launcher, Runner.run launcher (files world) request =
    ((sur.run world request).1.answer, files (sur.run world request).2)

namespace Outcome

/-- An outcome shows the ends of both outputs of a command that finished, and nothing of any other. -/
structure Keeps (limit : Int) (o : Outcome) (answer : Answer) : Prop where
  finished : ∀ result, answer = .finished result →
    IsTail limit o.stdout result.stdout ∧ IsTail limit o.stderr result.stderr
  unfinished : (∀ result, answer ≠ .finished result) → o.stdout = [] ∧ o.stderr = []

/-- An outcome shows the ends of the log files that it names. -/
structure EndsLogs (limit : Int) (o : Outcome) (t : FileTree) : Prop where
  stdout : ∀ path bytes, o.stdoutPath = some path → t.read path.text = .ok bytes →
    IsTail limit o.stdout bytes
  stderr : ∀ path bytes, o.stderrPath = some path → t.read path.text = .ok bytes →
    IsTail limit o.stderr bytes

variable {limit : Int} {task : Task} {request : Request} {result : ProcessResult} {seconds : Float}
  {o : Outcome} {answer : Answer}

/-- The outputs of a result are cut the same way, whatever becomes of it. -/
theorem outputs_of_ofResult (h : ofResult task request limit result seconds = .ok o) :
    o.stdout = preview limit result.stdout ∧ o.stderr = preview limit result.stderr ∧
      o.stdoutPath = some request.stdoutPath ∧ o.stderrPath = some request.stderrPath := by
  cases ofResult_records h <;> exact ⟨rfl, rfl, rfl, rfl⟩

theorem ofResult_keeps (hl : 0 < limit) (h : ofResult task request limit result seconds = .ok o) :
    o.Keeps limit (.finished result) := by
  obtain ⟨hstdout, hstderr, -⟩ := outputs_of_ofResult h
  constructor
  · rintro _ ⟨⟩
    rw [hstdout, hstderr]
    exact ⟨preview_isTail hl _, preview_isTail hl _⟩
  · intro hn
    exact absurd rfl (hn result)

theorem ofStartFailure_keeps (limit : Int) (task : Task) (message : String)
    (h : ∀ result, answer ≠ .finished result) : (ofStartFailure task message).Keeps limit answer :=
  ⟨fun result hr => absurd hr (h result), fun _ => ⟨rfl, rfl⟩⟩

/-- Weighing an outcome leaves its outputs alone. -/
theorem Keeps.weigh (h : o.Keeps limit answer) (policy : Policy) :
    (Campaign.weigh policy o).Keeps limit answer := by
  unfold Campaign.weigh
  split
  · exact ⟨h.finished, h.unfinished⟩
  · exact h

end Outcome

namespace Campaign

variable {σ : Type} {setup : Setup} {sur : Surroundings σ} {files : σ → FileTree} {policy : Policy}
  {place : Nat} {task : Task} {tasks : List Task} {o : Outcome} {c next : Campaign σ}

/-! ## One task -/

theorem judge_keeps (hl : 0 < setup.previewBytes) {request : Request} {seconds : Float}
    {answer : Answer} (h : judge setup task request seconds answer = .ok o) :
    o.Keeps setup.previewBytes answer := by
  cases answer with
  | notStarted cause => cases h
  | broke fault => cases h
  | finished result => exact Outcome.ofResult_keeps hl h

/-- A command that could not be executed did not finish. -/
theorem ne_finished_of_judge {request : Request} {seconds : Float} {answer : Answer}
    {id cause : String} (h : judge setup task request seconds answer = .error (.notExecuted id cause))
    (result : ProcessResult) : answer ≠ .finished result := by
  rintro rfl
  cases Outcome.ofResult_eq_error h

/-- A turn asks the runner once, and its outcome shows the ends of what the runner answers. -/
theorem runTask_keeps (hl : 0 < setup.previewBytes)
    (h : c.runTask setup sur policy place task = (.ok o, next)) :
    ∃ asked : Asked, next.asked = c.asked ++ [asked] ∧
      o.Keeps setup.previewBytes asked.event.answer := by
  unfold runTask at h
  dsimp only at h
  cases hc : task.commandTexts with
  | error fault =>
    obtain rfl := Task.commandTexts_eq_error hc
    simp only [execute, hc] at h
    cases h
  | ok command =>
    obtain ⟨asked, seconds, -, -, hg, hj⟩ := execute_grows setup sur hc (some place) true
      (c.note .info s!"Task {task.id} started: {task.description}")
    refine ⟨asked, ?_⟩
    split at h
    · next outcome ran he =>
      rw [he] at hg hj
      cases h
      exact ⟨hg.asked, (judge_keeps hl hj.symm).weigh policy⟩
    · next id cause ran he =>
      rw [he] at hg hj
      cases h
      exact ⟨hg.asked, Outcome.ofStartFailure_keeps _ _ _ (ne_finished_of_judge hj.symm)⟩
    · cases h

/-- The world after a task was executed is the one that its command left. -/
theorem world_execute {command : List String} (hc : task.commandTexts = .ok command)
    (setup : Setup) (sur : Surroundings σ) (sequence : Option Int) (watchesStop : Bool)
    (c : Campaign σ) :
    (c.execute setup sur task sequence watchesStop).2.world =
      (sur.run c.world (setup.request task command sequence watchesStop)).2 := by
  simp only [execute, hc]
  rfl

/-- What an outcome shows was read from the log files as they are when its command is over. -/
theorem execute_endsLogs (hl : 0 < setup.previewBytes) (hs : sur.RunsIn files)
    {sequence : Option Int} {watchesStop : Bool}
    (h : c.execute setup sur task sequence watchesStop = (.ok o, next)) :
    o.EndsLogs setup.previewBytes (files next.world) := by
  cases hc : task.commandTexts with
  | error fault =>
    simp only [execute, hc] at h
    cases h
  | ok command =>
    obtain ⟨asked, seconds, hr, ha, -, hj⟩ := execute_grows setup sur hc sequence watchesStop c
    have hworld := world_execute hc setup sur sequence watchesStop c
    rw [h] at hj hworld
    cases hanswer : asked.event.answer with
    | notStarted cause =>
      rw [hanswer] at hj
      cases hj
    | broke fault =>
      rw [hanswer] at hj
      cases hj
    | finished result =>
      rw [hanswer] at hj
      obtain ⟨hstdout, hstderr, hout, herr⟩ := Outcome.outputs_of_ofResult hj.symm
      obtain ⟨launcher, hrun⟩ := hs c.world asked.request
      rw [ha, hanswer, hr, ← hworld] at hrun
      obtain ⟨hstdoutLog, hstderrLog⟩ := Runner.outputs_of_run hrun
      have htail {path : Path} {bytes : List UInt8}
          (hread : (files next.world).read path.text = .ok bytes) :
          IsTail setup.previewBytes
            (preview setup.previewBytes
              (Runner.readLog (files next.world) path (some setup.previewBytes))) bytes :=
        (preview_isTail hl _).trans (Runner.readLog_isTail (Int.le_of_lt hl) hread)
      constructor
      · intro path bytes hp hread
        rw [hout, hr] at hp
        cases hp
        rw [hstdout, hstdoutLog]
        exact htail hread
      · intro path bytes hp hread
        rw [herr, hr] at hp
        cases hp
        rw [hstderr, hstderrLog]
        exact htail hread

/-! ## Runs -/

/-- In a run of the queue that nothing breaks off, each outcome shows the ends of what the runner answered at
its place. -/
theorem runQueue_keeps (hl : 0 < setup.previewBytes) (sur : Surroundings σ) (policy : Policy)
    (place : Nat) (tasks : List Task) (c : Campaign σ)
    (h : ∀ fault, (c.runQueue setup sur policy place tasks).ending ≠ .broke fault) :
    ∃ more, (c.runQueue setup sur policy place tasks).campaign.asked = c.asked ++ more ∧
      List.Forall₂ (fun a o => o.Keeps setup.previewBytes a.event.answer) more
        (c.runQueue setup sur policy place tasks).outcomes := by
  fun_induction runQueue setup sur policy place tasks c with
  | case1 place c => exact ⟨[], by simp, .nil⟩
  | case2 place task rest c hs => exact ⟨[], by simp, .nil⟩
  | case3 place task rest c hs fault ran hr => exact absurd rfl (h fault)
  | case4 place task rest c hs o ran hr fault seen hw => exact absurd rfl (h fault)
  | case5 place task rest c hs o ran hr seen hw noted hb =>
    obtain ⟨asked, ha, hkeeps⟩ := runTask_keeps hl hr
    have hshow := asked_show sur task o ran
    rw [hw] at hshow
    exact ⟨[asked], (asked_noteOutcome ..).trans (hshow.trans ha), .cons hkeeps .nil⟩
  | case6 place task rest c hs o ran hr seen hw noted hb run ih =>
    obtain ⟨asked, ha, hkeeps⟩ := runTask_keeps hl hr
    have hshow := asked_show sur task o ran
    rw [hw] at hshow
    have hnoted : noted.asked = c.asked ++ [asked] :=
      (asked_noteOutcome ..).trans (hshow.trans ha)
    obtain ⟨more, hmore, hrest⟩ := ih h
    refine ⟨asked :: more, ?_, .cons hkeeps hrest⟩
    exact hmore.trans (by rw [hnoted, List.append_assoc, List.singleton_append])

theorem run_keeps (hl : 0 < setup.previewBytes) {world : σ} {stops : List String} {report : Report}
    {after : Campaign σ}
    (h : (waiting world stops).run setup sur policy tasks = (.ok report, after)) :
    List.Forall₂ (fun a o => o.Keeps setup.previewBytes a.event.answer) after.asked
      report.outcomes := by
  obtain ⟨hending, rfl, rfl⟩ := (run_eq_ok_iff (phase_waiting world stops)).1 h
  obtain ⟨more, hmore, hkeeps⟩ := runQueue_keeps hl sur policy 1 tasks
    ((waiting world stops).underway tasks) hending
  have hasked : ((waiting world stops).underway tasks).asked = [] := asked_waiting world stops
  rw [hasked, List.nil_append] at hmore
  subst hmore
  exact hkeeps

/-- How outputs are cut, from the log files to a report. -/
structure KeepsOutputs (setup : Setup) (sur : Surroundings σ) : Prop where
  /-- Of a log file its end is read. -/
  log : ∀ (t : FileTree) (path : Path) (bytes : List UInt8), t.read path.text = .ok bytes →
    IsTail setup.previewBytes (Runner.readLog t path (some setup.previewBytes)) bytes
  /-- What was read is not cut again. -/
  unchanged : ∀ (t : FileTree) (path : Path),
    preview setup.previewBytes (Runner.readLog t path (some setup.previewBytes)) =
      Runner.readLog t path (some setup.previewBytes)
  /-- Whatever the outputs of a command that finished are, its task has an outcome that shows their ends,
  unless the time was up where no limit was set. -/
  outcome : ∀ (c : Campaign σ) (task : Task) command sequence watchesStop result,
    task.commandTexts = .ok command →
    (sur.run c.world (setup.request task command sequence watchesStop)).1.answer =
      .finished result →
    (result.timedOut = true → setup.limits.of task.stage ≠ none) →
    ∃ o, (c.execute setup sur task sequence watchesStop).1 = .ok o ∧
      IsTail setup.previewBytes o.stdout result.stdout ∧
      IsTail setup.previewBytes o.stderr result.stderr
  /-- Where the runner runs commands over files, these are the ends of the log files. -/
  logs : ∀ (files : σ → FileTree), sur.RunsIn files →
    ∀ (c : Campaign σ) task sequence watchesStop o next,
      c.execute setup sur task sequence watchesStop = (.ok o, next) →
      o.EndsLogs setup.previewBytes (files next.world)
  /-- A report shows the ends of what the runner answered, one answer for each outcome. -/
  report : ∀ policy tasks world stops report after,
    (waiting world stops).run setup sur policy tasks = (.ok report, after) →
    List.Forall₂ (fun a o => o.Keeps setup.previewBytes a.event.answer) after.asked report.outcomes

theorem keepsOutputs (hl : 0 < setup.previewBytes) (sur : Surroundings σ) :
    KeepsOutputs setup sur := by
  have hle : 0 ≤ setup.previewBytes := Int.le_of_lt hl
  constructor
  · intro t path bytes hread
    exact Runner.readLog_isTail hle hread
  · intro t path
    exact preview_of_length_le (Runner.length_readLog_le hle t path)
  · intro c task command sequence watchesStop result hc hanswer hlimit
    obtain ⟨asked, seconds, hr, ha, -, hj⟩ := execute_grows setup sur hc sequence watchesStop c
    rw [← hr, ha] at hanswer
    rw [hanswer] at hj
    have htime : result.timedOut = true → asked.request.timeLimit ≠ none := by
      rw [hr]
      exact hlimit
    obtain ⟨o, ho⟩ := Outcome.exists_ofResult htime task setup.previewBytes seconds
    have hkeeps := Outcome.ofResult_keeps hl ho
    exact ⟨o, hj.trans ho, hkeeps.finished result rfl⟩
  · intro files hs c task sequence watchesStop o next h
    exact execute_endsLogs hl hs h
  · intro policy tasks world stops report after h
    exact run_keeps hl h

/-- Of five bytes the last three are shown, and an output that is as long as the limit is shown as it is. -/
theorem keepsOutputs_fiveBytes :
    let setup : Setup := { plainSetup with previewBytes := 3 }
    let answer : Answer := .finished ⟨7, [1, 2, 3, 4, 5], [6, 7, 8], false, false⟩
    let events : List (RunEvent × Notice) := [(⟨[], 0, answer⟩, ⟨[], none⟩)]
    let executed := (waiting events []).execute setup playing (plainTask "lint" .advisory) (some 1) true
    0 < setup.previewBytes ∧
      executed.1.toOption.map (fun o => (o.stdout, o.stderr)) = some ([3, 4, 5], [6, 7, 8]) ∧
      KeepsOutputs setup playing := by
  intro setup answer events executed
  have hl : 0 < setup.previewBytes := by decide
  exact ⟨hl, by decide +kernel, keepsOutputs hl playing⟩

end Campaign

end Greenlight
