import Greenlight.Process.Runner
import Greenlight.Proofs.Failing
import Greenlight.Proofs.FileTree.Folders
import Greenlight.Proofs.Process.Endings
import Greenlight.Proofs.Process.LogFiles

/-! # Starting a command

A runner makes the log folder first. When that fails it breaks off; from there on it answers, either with
what became of the command or with why it was not started, unless the process outlives being killed. -/

namespace Greenlight

/-! ## Watches -/

/-- The time of a command is up only under a limit. -/
theorem Watch.Terms.FindsLate.timeLimit_ne_none {start : Rat} {request : Request} {look : Look}
    (h : (ofRequest start request).FindsLate look) : request.timeLimit ≠ none := by
  obtain ⟨limit, hlimit, -⟩ := h.timeUp
  intro hn
  rw [ofRequest, hn] at hlimit
  cases hlimit

/-- A launcher watches a command that runs under the terms of its request. -/
def Runner.Launcher.Watches (launcher : Runner.Launcher) : Prop :=
  ∀ t request finish next, launcher t request = (.watched finish, next) →
    ∃ start looks reactions count last,
      (Watch.Terms.ofRequest start request).watch looks reactions count = some (finish, last)

/-- Only a time limit that is set is reached. -/
theorem Runner.Launcher.Watches.timeLimit_ne_none {launcher : Runner.Launcher}
    (hl : launcher.Watches) {t next : FileTree} {request : Request} {ending : Watch.Ending}
    (h : launcher t request = (.watched (.returns ending), next)) {stdout stderr : List UInt8}
    (ht : (ending.result stdout stderr).timedOut = true) : request.timeLimit ≠ none := by
  obtain ⟨start, looks, reactions, count, last, hwatch⟩ := hl t request _ next h
  have hrun := Watch.Terms.run_of_watch_returns hwatch
  exact ((Watch.Terms.reports_of_run hrun stdout stderr).timedOut_iff.1 ht).timeLimit_ne_none

/-- A launcher that only the system keeps from starting a command, and that watches one that runs under
the terms of its request. -/
structure Runner.Launcher.IsLawful (launcher : Runner.Launcher) : Prop where
  sensible : ∀ t request fault next, launcher t request ≠ (.senseless fault, next)
  watches : launcher.Watches

/-- A launcher leaves processes behind that outlive being killed. -/
def Runner.Launcher.LeavesBehind (launcher : Runner.Launcher) (request : Request) : Prop :=
  ∃ t next, launcher t request = (.watched .outlived, next)

/-- What a launcher leaves behind was running at the last look, and got both signals. -/
theorem Runner.Launcher.Watches.exists_outlives {launcher : Runner.Launcher} (hl : launcher.Watches)
    {request : Request} (h : launcher.LeavesBehind request) :
    ∃ start looks reactions count last,
      (Watch.Terms.ofRequest start request).watch looks reactions count = some (.outlived, last) ∧
        (looks last).exited = none ∧ (reactions last).Outlives := by
  obtain ⟨t, next, h⟩ := h
  obtain ⟨start, looks, reactions, count, last, hwatch⟩ := hl t request _ next h
  obtain ⟨houtlives, ending, hsignalled, hreports⟩ :=
    (Watch.Terms.endsByLooks _).outlived _ _ _ _ hwatch
  exact ⟨start, looks, reactions, count, last, hwatch,
    (hreports [] []).signalled_iff.1 hsignalled, houtlives⟩

/-! ## The log folder -/

namespace Setup

variable {setup : Setup} {t made : FileTree}

/-- Makes the log folder of a campaign. -/
def makeLogFolder (setup : Setup) (t : FileTree) : Except Fault FileTree :=
  if FileTree.isNameable setup.logFolder.text then (t.makeFolders setup.logFolder).mapError .file
  else .error .unnameable

theorem makeLogFolder_eq_ok_iff :
    setup.makeLogFolder t = .ok made ↔
      FileTree.isNameable setup.logFolder.text = true ∧ t.makeFolders setup.logFolder = .ok made := by
  unfold makeLogFolder
  split
  · next hn => simp [mapError_eq_ok_iff, hn]
  · next hn => simp [hn]

/-- A log folder that was made is made again without any change. -/
theorem makeLogFolder_made (h : setup.makeLogFolder t = .ok made) :
    setup.makeLogFolder made = .ok made := by
  obtain ⟨hn, hm⟩ := makeLogFolder_eq_ok_iff.1 h
  rw [makeLogFolder_eq_ok_iff]
  exact ⟨hn, FileTree.makeFolders_of_isFolder (FileTree.isFolder_of_makeFolders hn hm)⟩

/-- A log file stands in the log folder. -/
theorem makeLogFolder_child {name : String} (hn : IsLogName name) (t : FileTree) :
    Runner.makeLogFolder t (setup.logFolder.child name) = setup.makeLogFolder t := by
  rw [Runner.makeLogFolder, hn.parent_child, makeLogFolder]

end Setup

/-! ## Answers -/

namespace Runner

/-- Where the answer of the runner comes from. -/
inductive AnswersFrom (launcher : Launcher) (request : Request) : Answer → Prop where
  | notStarted (cause) : AnswersFrom launcher request (.notStarted cause)
  | files {fault} (hf : fault = .unnameable ∨ ∃ e, fault = .file e) :
      AnswersFrom launcher request (.broke fault)
  | senseless {t fault next} (h : launcher t request = (.senseless fault, next)) :
      AnswersFrom launcher request (.broke fault)
  | outlived {t next} (h : launcher t request = (.watched .outlived, next)) :
      AnswersFrom launcher request (.broke (.outlived request.command))
  | watched {t ending next} (h : launcher t request = (.watched (.returns ending), next))
      (stdout stderr) :
      AnswersFrom launcher request (.finished (ending.result stdout stderr))

variable {setup : Setup} {launcher : Launcher} {t made : FileTree} {fault : Fault}

/-- Whatever touches files fails at a path that names none, or with a fault of the files. -/
theorem fault_of_files {α : Type} {nameable : Bool} {x : Except FileError α}
    (h : (if nameable then x.mapError Fault.file else .error .unnameable) = .error fault) :
    (fault = .unnameable ∧ ¬nameable = true) ∨ ∃ e, fault = .file e := by
  split at h
  · obtain ⟨e, -, rfl⟩ := mapError_eq_error_iff.1 h
    exact .inr ⟨e, rfl⟩
  · next hn =>
      cases h
      exact .inl ⟨rfl, hn⟩

theorem makeLogFolder_answersFrom {path : Path} (h : Runner.makeLogFolder t path = .error fault)
    (launcher : Launcher) (request : Request) : AnswersFrom launcher request (.broke fault) :=
  .files ((fault_of_files h).imp_left And.left)

theorem logAnswer_answersFrom {path : Path} (h : openLog t path = .error fault) (launcher : Launcher)
    (request : Request) : AnswersFrom launcher request (logAnswer request fault) := by
  rcases fault_of_files h with ⟨rfl, -⟩ | ⟨e, rfl⟩
  · exact .files (.inl rfl)
  · exact .notStarted _

theorem run_answersFrom (launcher : Launcher) (t : FileTree) (request : Request) :
    AnswersFrom launcher request (run launcher t request).1 := by
  unfold run
  split
  · next h => exact makeLogFolder_answersFrom h launcher request
  · split
    · next h => exact makeLogFolder_answersFrom h launcher request
    · split
      · next h => exact logAnswer_answersFrom h launcher request
      · split
        · next h => exact logAnswer_answersFrom h launcher request
        · unfold launch
          split
          · exact .notStarted _
          · next h => exact .senseless h
          · next h => exact .outlived h
          · next h => exact .watched h _ _

/-- The answer to a request whose log folder is there: what became of the command, why it was not started,
or that its process is left behind. -/
inductive Settles (launcher : Launcher) (request : Request) : Answer → Prop where
  | finished {result} (hl : result.timedOut = true → request.timeLimit ≠ none) :
      Settles launcher request (.finished result)
  | notStarted (cause) : Settles launcher request (.notStarted cause)
  | outlived (h : launcher.LeavesBehind request) :
      Settles launcher request (.broke (.outlived request.command))

/-- A log file that cannot be opened keeps the command from starting. -/
theorem settles_logAnswer {request : Request} {path : Path}
    (hp : FileTree.isNameable path.text = true) (h : openLog t path = .error fault) :
    Settles launcher request (logAnswer request fault) := by
  rcases fault_of_files h with ⟨-, hn⟩ | ⟨e, rfl⟩
  · exact absurd hp hn
  · exact .notStarted _

theorem settles_launch (hl : launcher.IsLawful) (t : FileTree) (request : Request) :
    Settles launcher request (launch launcher t request).1 := by
  unfold launch
  split
  · exact .notStarted _
  · next fault made h => exact absurd h (hl.sensible _ _ _ _)
  · next made h => exact .outlived ⟨t, made, h⟩
  · next ending made h =>
      exact .finished (hl.watches.timeLimit_ne_none h)

/-- The runner breaks off when the log folder cannot be made, and changes nothing. -/
theorem run_of_makeLogFolder_error (h : setup.makeLogFolder t = .error fault) (launcher : Launcher)
    (task : Task) (command : List String) (sequence : Option Int) (watchesStop : Bool) :
    run launcher t (setup.request task command sequence watchesStop) = (.broke fault, t) := by
  have hfolder := setup.makeLogFolder_child
    (Setup.isLogName_stdout sequence task.id) t
  unfold run Setup.request
  rw [hfolder, h]

/-- The runner answers when the log folder can be made. -/
theorem settles_run (hl : launcher.IsLawful) (h : setup.makeLogFolder t = .ok made) (task : Task)
    (command : List String) (sequence : Option Int) (watchesStop : Bool) :
    let request := setup.request task command sequence watchesStop
    Settles launcher request (run launcher t request).1 := by
  intro request
  obtain ⟨hn, -⟩ := Setup.makeLogFolder_eq_ok_iff.1 h
  have hstdout := Setup.isLogName_stdout sequence task.id
  have hstderr := Setup.isLogName_stderr sequence task.id
  have hfirst : makeLogFolder t request.stdoutPath = .ok made :=
    (Setup.makeLogFolder_child hstdout t).trans h
  have hsecond : makeLogFolder made request.stderrPath = .ok made :=
    (Setup.makeLogFolder_child hstderr made).trans (Setup.makeLogFolder_made h)
  unfold run
  simp only [hfirst, hsecond]
  split
  · next ho => exact settles_logAnswer (hstdout.isNameable_child hn) ho
  · split
    · next ho => exact settles_logAnswer (hstderr.isNameable_child hn) ho
    · exact settles_launch hl _ _

end Runner

end Greenlight
