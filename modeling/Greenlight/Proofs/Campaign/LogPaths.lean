import Greenlight.Proofs.Campaign.Policies
import Greenlight.Proofs.Process.LogFiles
import Mathlib.Data.List.Nodup

/-! # Paths of log files

The log files of a request are named after the place of its task in the queue, so that they stay apart from
all others whatever the ids of the tasks are. Main statement: in every run the log files of all requests lie
side by side in the log folder, each under a name of its own. -/

namespace Greenlight

/-- The paths of the log files of a request. -/
def Request.logPaths (request : Request) : List Path := [request.stdoutPath, request.stderrPath]

/-! ## Names of log files -/

namespace Setup

variable {setup : Setup} {place other : Nat} {id otherId ending otherEnding : String}

/-- A name can stand for a file in a folder: it is not empty, stands for no folder by itself, and consists
of letters, digits and the characters `.`, `_`, `+` and `-` only. -/
structure IsFileName (name : String) : Prop where
  ne_empty : name ≠ ""
  ne_here : name ≠ "."
  ne_above : name ≠ ".."
  plain : ∀ c ∈ name.toList, c.isAlphanum = true ∨ c ∈ ['.', '_', '+', '-']

/-- The endings of the names of log files. -/
def logEndings : List String := [".stdout.log", ".stderr.log"]

theorem isLogName_of_mem_logEndings (h : ending ∈ logEndings) (sequence : Option Int) (id : String) :
    IsLogName (logStem sequence id ++ ending) := by
  rcases List.mem_pair.1 h with rfl | rfl
  · exact isLogName_stdout sequence id
  · exact isLogName_stderr sequence id

theorem isFileName_of_mem_logEndings (h : ending ∈ logEndings) (sequence : Option Int) (id : String) :
    IsFileName (logStem sequence id ++ ending) := by
  have hsize : 2 < (logStem sequence id ++ ending).length := by
    rw [String.length_append]
    rcases List.mem_pair.1 h with rfl | rfl
    · exact Nat.lt_add_left _ (by decide)
    · exact Nat.lt_add_left _ (by decide)
  have hne (short : String) (hshort : short.length ≤ 2) : logStem sequence id ++ ending ≠ short :=
    fun he => absurd (he ▸ hsize) (Nat.not_lt.2 hshort)
  refine ⟨hne "" (by decide), hne "." (by decide), hne ".." (by decide), fun c hc => ?_⟩
  have hplain := (isLogName_of_mem_logEndings h sequence id).plain c hc
  simpa [isPlain, or_assoc] using hplain

/-- The place stands in front of the first hyphen, whatever the id is. -/
theorem cutAtFirst_logName (place : Nat) (id ending : String) :
    Text.cutAtFirst '-' (logStem (some place) id ++ ending).toList =
      some ((Text.paddedNat 2 place).toList, (plainName id ++ ending).toList) := by
  have hdigits : '-' ∉ (Text.paddedNat 2 place).toList := by
    intro hm
    have hdash : '-'.isDigit = true := Text.isDigit_of_mem_paddedNat hm
    cases hdash
  have hchars : (logStem (some place) id ++ ending).toList =
      (Text.paddedNat 2 place).toList ++ '-' :: (plainName id ++ ending).toList := by
    simp [logStem]
  rw [hchars, Text.cutAtFirst_append_cons hdigits]

theorem place_eq_of_logName_eq
    (h : logStem (some place) id ++ ending = logStem (some other) otherId ++ otherEnding) :
    place = other := by
  have hcut := cutAtFirst_logName place id ending
  rw [h, cutAtFirst_logName] at hcut
  obtain ⟨hdigits, -⟩ := Prod.mk.inj (Option.some.inj hcut)
  exact (Text.paddedNat_inj.1 (String.toList_inj.1 hdigits)).symm

/-- The log file with an ending of the task at a place of the queue. -/
def logPath (setup : Setup) (place : Nat) (id ending : String) : Path :=
  setup.logFolder.child (logStem (some place) id ++ ending)

theorem logPath_eq (h : ending ∈ logEndings) :
    setup.logPath place id ending =
      ⟨setup.logFolder.start, setup.logFolder.names ++ [logStem (some place) id ++ ending]⟩ :=
  (isLogName_of_mem_logEndings h _ _).child_eq _

theorem logName_eq_of_logPath_eq (h : ending ∈ logEndings) (ho : otherEnding ∈ logEndings)
    (he : setup.logPath place id ending = setup.logPath other otherId otherEnding) :
    logStem (some place) id ++ ending = logStem (some other) otherId ++ otherEnding := by
  rw [logPath_eq h, logPath_eq ho] at he
  have hnames := List.append_cancel_left (congrArg Path.names he)
  exact List.cons.inj hnames |>.1

end Setup

/-! ## Log files of a run -/

/-- A path lies in a folder, under a name for a file. -/
structure Path.LiesIn (path folder : Path) : Prop where
  parent : path.parent = folder
  names : path.names = folder.names ++ [path.name]
  name : Setup.IsFileName path.name

/-- The log files of some requests lie side by side in the log folder, and no two of them, of one request
or of two, have the same path. -/
structure KeepsLogsApart (setup : Setup) (asked : List Asked) : Prop where
  inside : ∀ a ∈ asked, ∀ path ∈ a.request.logPaths, path.LiesIn setup.logFolder
  apart : (asked.flatMap (·.request.logPaths)).Nodup

namespace Setup

variable {setup : Setup} {place : Nat} {id ending : String}

theorem logPath_liesIn (h : ending ∈ logEndings) :
    (setup.logPath place id ending).LiesIn setup.logFolder := by
  have hname : (setup.logPath place id ending).name = logStem (some place) id ++ ending := by
    rw [logPath_eq h, Path.name, List.getLast?_concat, Option.getD_some]
  refine ⟨(isLogName_of_mem_logEndings h _ _).parent_child _, ?_, ?_⟩
  · rw [hname, logPath_eq h]
  · rw [hname]
    exact isFileName_of_mem_logEndings h _ _

end Setup

/-- The log paths of the request of a task: one for each ending. -/
theorem Request.IsFor.logPaths_eq {request : Request} {setup : Setup} {place : Nat} {task : Task}
    (h : request.IsFor setup place task) :
    request.logPaths = Setup.logEndings.map (setup.logPath place task.id) := by
  rw [logPaths, h.stdoutPath, h.stderrPath]
  simp [Setup.logEndings, Setup.logPath, Setup.logStem]

namespace Campaign

variable {σ : Type} {setup : Setup} {sur : Surroundings σ} {policy : Policy} {place : Nat}
  {c : Campaign σ} {asked more : List Asked}

/-- Requests for tasks at places that follow each other. -/
inductive Numbered (setup : Setup) : Nat → List Asked → Prop where
  | nil (place : Nat) : Numbered setup place []
  | cons {place task asked rest} (h : asked.request.IsFor setup place task) :
      Numbered setup (place + 1) rest → Numbered setup place (asked :: rest)

namespace Numbered

/-- Every log file is that of a place from the first one on. -/
theorem exists_logPath (h : Numbered setup place asked) :
    ∀ path ∈ asked.flatMap (·.request.logPaths), ∃ later id ending,
      place ≤ later ∧ ending ∈ Setup.logEndings ∧ setup.logPath later id ending = path := by
  induction h with
  | nil place => exact List.forall_mem_nil _
  | @cons place task asked rest hfor _ ih =>
    rw [List.flatMap_cons, List.forall_mem_append]
    constructor
    · intro path hm
      rw [hfor.logPaths_eq] at hm
      obtain ⟨ending, he, rfl⟩ := List.mem_map.1 hm
      exact ⟨place, task.id, ending, Nat.le_refl place, he, rfl⟩
    · intro path hm
      obtain ⟨later, id, ending, hle, he, rfl⟩ := ih path hm
      exact ⟨later, id, ending, Nat.le_of_succ_le hle, he, rfl⟩

theorem keepsLogsApart (h : Numbered setup place asked) : KeepsLogsApart setup asked := by
  constructor
  · intro a ha path hm
    obtain ⟨later, id, ending, -, he, rfl⟩ :=
      h.exists_logPath path (List.mem_flatMap.2 ⟨a, ha, hm⟩)
    exact Setup.logPath_liesIn he
  · induction h with
    | nil place => exact List.nodup_nil
    | @cons place task asked rest hfor hrest ih =>
      rw [List.flatMap_cons, hfor.logPaths_eq]
      refine List.Nodup.append ?_ ih ?_
      · -- the two names of one task differ in their endings
        refine List.Nodup.map_on (fun ending he other ho heq => ?_) (by decide)
        exact (String.append_right_inj _).1 (Setup.logName_eq_of_logPath_eq he ho heq)
      · intro path hm hlater
        obtain ⟨ending, he, heq⟩ := List.mem_map.1 hm
        obtain ⟨later, id, other, hle, ho, hpath⟩ := hrest.exists_logPath path hlater
        have hname := Setup.logName_eq_of_logPath_eq he ho (heq.trans hpath.symm)
        have hplace := Setup.place_eq_of_logName_eq hname
        omega

end Numbered

/-- A task is asked of the runner at most once, and not at all if its command is no row of texts. -/
theorem asked_execute_place (setup : Setup) (sur : Surroundings σ) (place : Nat) (task : Task)
    (c : Campaign σ) :
    ∃ asked : Option Asked,
      (c.execute setup sur task (some place) true).2.asked = c.asked ++ asked.toList ∧
        ∀ a ∈ asked, a.request.IsFor setup place task := by
  cases hc : task.commandTexts with
  | error fault => exact ⟨none, by simp [execute, hc], fun a ha => absurd ha (Option.not_mem_none a)⟩
  | ok command =>
    obtain ⟨asked, -, hr, -, hg, -⟩ := execute_grows setup sur hc (some (place : Int)) true c
    refine ⟨some asked, hg.asked, ?_⟩
    rintro _ ⟨⟩
    exact hr ▸ setup.request_isFor place hc

/-- So is it in a turn, also where the turn breaks off. -/
theorem asked_runTask (setup : Setup) (sur : Surroundings σ) (policy : Policy) (place : Nat)
    (task : Task) (c : Campaign σ) :
    ∃ asked : Option Asked, (c.runTask setup sur policy place task).2.asked = c.asked ++ asked.toList ∧
      ∀ a ∈ asked, a.request.IsFor setup place task := by
  have hexecute := asked_execute_place setup sur place task
    (c.note .info s!"Task {task.id} started: {task.description}")
  unfold runTask
  dsimp only
  split <;> next h => rwa [h] at hexecute

/-- A turn that has an outcome asks the runner once. -/
theorem asked_turn {task : Task} {o : Outcome} {fault : Option Fault} {ran seen : Campaign σ}
    (hr : c.runTask setup sur policy place task = (.ok o, ran))
    (hw : ran.show_ sur task o = (fault, seen)) :
    ∃ a : Asked, seen.asked = c.asked ++ [a] ∧ a.request.IsFor setup place task := by
  obtain ⟨a, hfor, -, -, hg⟩ := runTask_eq_ok hr
  have hshow := asked_show sur task o ran
  rw [hw] at hshow
  exact ⟨a, hshow.trans hg.asked, hfor⟩

/-- The requests of a run of the queue, however it ends. -/
theorem runQueue_numbered (setup : Setup) (sur : Surroundings σ) (policy : Policy) (place : Nat)
    (tasks : List Task) (c : Campaign σ) :
    ∃ more, (c.runQueue setup sur policy place tasks).campaign.asked = c.asked ++ more ∧
      Numbered setup place more := by
  fun_induction runQueue setup sur policy place tasks c with
  | case1 place c => exact ⟨[], by simp, .nil place⟩
  | case2 place task rest c hs => exact ⟨[], by simp, .nil place⟩
  | case3 place task rest c hs fault ran hr =>
    obtain ⟨asked, ha, hfor⟩ := asked_runTask setup sur policy place task c
    rw [hr] at ha
    refine ⟨asked.toList, ha, ?_⟩
    cases asked with
    | none => exact .nil place
    | some a => exact .cons (hfor a rfl) (.nil _)
  | case4 place task rest c hs o ran hr fault seen hw =>
    obtain ⟨a, ha, hfor⟩ := asked_turn hr hw
    exact ⟨[a], ha, .cons hfor (.nil _)⟩
  | case5 place task rest c hs o ran hr seen hw noted hb =>
    obtain ⟨a, ha, hfor⟩ := asked_turn hr hw
    exact ⟨[a], (asked_noteOutcome ..).trans ha, .cons hfor (.nil _)⟩
  | case6 place task rest c hs o ran hr seen hw noted hb run ih =>
    obtain ⟨a, ha, hfor⟩ := asked_turn hr hw
    obtain ⟨more, hmore, hnumbered⟩ := ih
    refine ⟨a :: more, ?_, .cons hfor hnumbered⟩
    have hnoted : noted.asked = c.asked ++ [a] := (asked_noteOutcome ..).trans ha
    exact hmore.trans (by rw [hnoted, List.append_assoc, List.singleton_append])

/-- A run asks for what its queue asks for, also where it breaks off. -/
theorem asked_run {tasks : List Task} (hc : c.phase = .idle) :
    (c.run setup sur policy tasks).2.asked =
      ((c.underway tasks).runQueue setup sur policy 1 tasks).campaign.asked := by
  rcases hr : c.run setup sur policy tasks with ⟨answer, after⟩
  cases answer with
  | error fault =>
    obtain ⟨-, rfl⟩ := (run_eq_error_iff hc).1 hr
    rfl
  | ok report =>
    obtain ⟨-, -, rfl⟩ := (run_eq_ok_iff hc).1 hr
    rfl

/-- In every run, also one that breaks off, the log files of all requests lie side by side in the log
folder. -/
theorem run_keepsLogsApart (setup : Setup) (sur : Surroundings σ) (policy : Policy) (tasks : List Task)
    (world : σ) (stops : List String) :
    KeepsLogsApart setup ((waiting world stops).run setup sur policy tasks).2.asked := by
  obtain ⟨asked, hasked, hnumbered⟩ :=
    runQueue_numbered setup sur policy 1 tasks ((waiting world stops).underway tasks)
  have hrun : ((waiting world stops).run setup sur policy tasks).2.asked = asked := by
    rw [asked_run (phase_waiting world stops), hasked]
    exact congrArg (· ++ asked) (asked_waiting world stops)
  rw [hrun]
  exact hnumbered.keepsLogsApart

/-- Ids that make the same plain name have log files of different names. -/
example :
    let tasks := [plainTask "example:foo" .blocking, plainTask "example/foo" .blocking]
    (played ⟨false, false⟩ tasks [ends 0, ends 0]).2.asked.map (·.request.stdoutPath.name) =
      ["01-example_foo.stdout.log", "02-example_foo.stdout.log"] := by
  decide +kernel

end Campaign

end Greenlight
