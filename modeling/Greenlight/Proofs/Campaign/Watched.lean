import Greenlight.Proofs.Campaign.StartFailure
import Greenlight.Proofs.Process.Endings

/-! # Tasks whose command is watched

The runner hands on what the watch of a command came to. Main statement: the result of a task that ran
reports the looks at its command, and a task that timed out has a limit that its outcome names. -/

namespace Greenlight

/-- A launcher that watches the commands it starts, and that needs no time limit to start them. -/
structure Runner.Launcher.IsWatching (launcher : Runner.Launcher) : Prop where
  watches : launcher.Watches
  starts : ∀ t request next, launcher t request ≠ (.senseless .noLimit, next)

/-- The world holds a file tree in which each request is run, by a launcher that watches. -/
def Surroundings.Watches {σ : Type} (sur : Surroundings σ) (files : σ → FileTree) : Prop :=
  ∀ world request, ∃ launcher : Runner.Launcher, launcher.IsWatching ∧
    Runner.run launcher (files world) request =
      ((sur.run world request).1.answer, files (sur.run world request).2)

/-- The outcome of a command whose time was up names the limit. -/
theorem Outcome.ofResult_of_timedOut {request : Request} {result : ProcessResult} {limit : Float}
    (hl : request.timeLimit = some limit) (ht : result.timedOut = true) {task : Task}
    {previewBytes : Int} {seconds : Float} {o : Outcome}
    (h : ofResult task request previewBytes result seconds = .ok o) :
    o.failureKind = some .timeout ∧ o.error = some s!"Timed out after {generalText limit}s" := by
  unfold ofResult at h
  simp only [ht, if_true, hl, Except.ok.injEq] at h
  subst h
  exact ⟨rfl, rfl⟩

namespace Campaign

variable {σ : Type} {setup : Setup} {sur : Surroundings σ} {files : σ → FileTree}

/-- What the runner answers of a command that finished reports the looks at it. -/
theorem exists_reports (hs : sur.Watches files) {world : σ} {request : Request}
    {result : ProcessResult} (h : (sur.run world request).1.answer = .finished result) :
    ∃ start looks last ending,
      (Watch.Terms.ofRequest start request).Reports looks last ending result := by
  obtain ⟨launcher, hl, hrun⟩ := hs world request
  have hfrom := Runner.run_answersFrom launcher (files world) request
  rw [hrun, h] at hfrom
  cases hfrom with
  | @watched _ ending _ hlaunch stdout stderr =>
      obtain ⟨start, looks, reactions, count, last, hwatch⟩ := hl.watches _ _ _ _ hlaunch
      exact ⟨start, looks, last, ending,
        Watch.Terms.reports_of_run (Watch.Terms.run_of_watch_returns hwatch) stdout stderr⟩

/-- A command that finished gives its task an outcome. -/
theorem exists_outcome (hs : sur.Watches files) {world : σ} {request : Request}
    {result : ProcessResult} (h : (sur.run world request).1.answer = .finished result) (task : Task)
    (previewBytes : Int) (seconds : Float) :
    ∃ o, Outcome.ofResult task request previewBytes result seconds = .ok o ∧
      (result.timedOut = true → ∃ limit, request.timeLimit = some limit ∧
        o.failureKind = some .timeout ∧ o.error = some s!"Timed out after {generalText limit}s") := by
  obtain ⟨start, looks, last, ending, hreports⟩ := exists_reports hs h
  have hlimit : result.timedOut = true → request.timeLimit ≠ none :=
    fun ht => (hreports.timedOut_iff.1 ht).timeLimit_ne_none
  obtain ⟨o, ho⟩ := Outcome.exists_ofResult hlimit task previewBytes seconds
  refine ⟨o, ho, fun ht => ?_⟩
  obtain ⟨limit, hl⟩ := Option.ne_none_iff_exists'.1 (hlimit ht)
  exact ⟨limit, hl, Outcome.ofResult_of_timedOut hl ht ho⟩

/-- A runner that watches does not break off for lack of a time limit. -/
theorem answer_ne_noLimit (hs : sur.Watches files) (world : σ) (request : Request) :
    (sur.run world request).1.answer ≠ .broke .noLimit := by
  intro h
  obtain ⟨launcher, hl, hrun⟩ := hs world request
  have hfrom := Runner.run_answersFrom launcher (files world) request
  rw [hrun, h] at hfrom
  cases hfrom with
  | files hf => simp at hf
  | senseless hlaunch => exact hl.starts _ _ _ hlaunch

theorem judge_ne_noLimit (hs : sur.Watches files) (setup : Setup) (task : Task) (world : σ)
    (request : Request) (seconds : Float) :
    judge setup task request seconds (sur.run world request).1.answer ≠ .error .noLimit := by
  cases hanswer : (sur.run world request).1.answer with
  | notStarted cause => exact nofun
  | broke fault =>
      intro h
      cases h
      exact answer_ne_noLimit hs world request hanswer
  | finished result =>
      obtain ⟨o, ho, -⟩ := exists_outcome hs hanswer task setup.previewBytes seconds
      rw [judge, ho]
      exact nofun

/-- How tasks are executed whose commands are watched. -/
structure ExecutesWatched (setup : Setup) (sur : Surroundings σ) : Prop where
  ends : ∀ terms : Watch.Terms, terms.EndsByLooks
  /-- A result reports the looks at the command, under the terms of its request. -/
  reports : ∀ world request result, (sur.run world request).1.answer = .finished result →
    ∃ start looks last ending, (Watch.Terms.ofRequest start request).Reports looks last ending result
  /-- A task that ran has an outcome, which names the limit if the time was up. -/
  outcome : ∀ (c : Campaign σ) task command sequence watchesStop result,
    task.commandTexts = .ok command →
    (sur.run c.world (setup.request task command sequence watchesStop)).1.answer =
      .finished result →
    ∃ o, (c.execute setup sur task sequence watchesStop).1 = .ok o ∧
      (result.timedOut = true → ∃ limit, setup.limits.of task.stage = some limit ∧
        o.failureKind = some .timeout ∧ o.error = some s!"Timed out after {generalText limit}s")
  neverUnlimited : ∀ (c : Campaign σ) task sequence watchesStop,
    (c.execute setup sur task sequence watchesStop).1 ≠ .error .noLimit

/-- Over a runner that watches, the looks at a command decide the outcome of its task, and no outcome names
a limit that was never set. -/
theorem executesWatched (hs : sur.Watches files) (setup : Setup) : ExecutesWatched setup sur := by
  constructor
  · exact Watch.Terms.endsByLooks
  · intro world request result h
    exact exists_reports hs h
  · intro c task command sequence watchesStop result hc h
    obtain ⟨asked, seconds, hr, ha, -, hj⟩ := execute_grows setup sur hc sequence watchesStop c
    rw [← hr] at h
    obtain ⟨o, ho, hlimit⟩ := exists_outcome hs h task setup.previewBytes seconds
    rw [ha] at h
    rw [hj, h]
    rw [hr] at hlimit
    exact ⟨o, ho, hlimit⟩
  · intro c task sequence watchesStop
    cases hc : task.commandTexts with
    | error fault =>
        obtain rfl := Task.commandTexts_eq_error hc
        simp [execute, hc]
    | ok command =>
        obtain ⟨asked, seconds, -, ha, -, hj⟩ := execute_grows setup sur hc sequence watchesStop c
        rw [hj, ← ha]
        exact judge_ne_noLimit hs setup task c.world asked.request seconds

theorem spawning_watches {launcher : Runner.Launcher} (hl : launcher.IsWatching) :
    (spawning launcher).Watches id :=
  fun _ _ => ⟨launcher, hl, rfl⟩

/-- A launcher whose commands have failed at the second look, when a stop is requested. -/
def failingAtStop : Runner.Launcher := fun t request =>
  let looks (index : Nat) : Watch.Look := ⟨if index = 0 then none else some 3, index, index != 0⟩
  let reactions (_ : Nat) : Watch.Reaction := ⟨fun _ => true, fun _ => true⟩
  match (Watch.Terms.ofRequest 0 request).watch looks reactions 2 with
  | some (finish, _) => (.watched finish, t)
  | none => (.refused .missing "", t)

theorem failingAtStop_isWatching : failingAtStop.IsWatching := by
  constructor
  · intro t request finish next h
    unfold failingAtStop at h
    dsimp only at h
    split at h
    · next found last hwatch =>
        cases h
        exact ⟨_, _, _, _, _, hwatch⟩
    · cases h
  · intro t request next h
    unfold failingAtStop at h
    dsimp only at h
    split at h <;> cases h

/-- A command that fails while a stop is requested was interrupted, and keeps its status. -/
theorem executesWatched_failingAtStop :
    let sur := spawning failingAtStop
    let executed :=
      (waiting FileTree.empty []).execute plainSetup sur (plainTask "lint" .advisory) (some 1) true
    (executed.1.toOption.map fun o => (o.exitStatus, o.failureKind)) =
        some (some 3, some .interrupted) ∧
      ExecutesWatched plainSetup sur := by
  intro sur executed
  exact ⟨by decide +kernel, executesWatched (spawning_watches failingAtStop_isWatching) plainSetup⟩

end Campaign

end Greenlight
