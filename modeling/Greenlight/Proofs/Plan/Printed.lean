import Greenlight.Plan
import Greenlight.Proofs.Campaign.StartFailure

/-! # Printed plans

Main statement: a plan is printed when each of its commands is a row of texts, as a title and one line for
each task, in order, with its number, its id and its command. -/

namespace Greenlight

theorem Arg.texts?_ofTexts (texts : List String) : texts? (ofTexts texts) = some texts := by
  induction texts with
  | nil => rfl
  | cons s rest ih => rw [ofTexts, List.map_cons, texts?, ← ofTexts, ih, Option.map_some]

theorem Task.commandTexts_eq_ok_iff {task : Task} {command : List String} :
    task.commandTexts = .ok command ↔ Arg.ofTexts command = task.command := by
  constructor
  · exact Task.ofTexts_of_commandTexts
  · intro h
    rw [commandTexts, ← h, Arg.texts?_ofTexts, Option.elim_some]

namespace Plan

variable {task : Task} {tasks : List Task} {number : Nat} {row : String} {printed : List String}

/-- A printed line with the number, the id and the command of a task. Numbers of one digit have a blank
more in front. -/
def Shows (number : Nat) (task : Task) (row : String) : Prop :=
  ∃ command, Arg.ofTexts command = task.command ∧
    row = (if number < 10 then "   " else "  ") ++ Nat.repr number ++ ". " ++ task.id ++ " [" ++
      task.severity.name ++ "] " ++ task.description ++ ": " ++ Text.join " " command

theorem rightAligned_two (number : Nat) :
    "  " ++ rightAligned 2 number = (if number < 10 then "   " else "  ") ++ Nat.repr number := by
  have hlength : number.repr.length = (Nat.toDigits 10 number).length := by
    rw [Nat.repr_eq_ofList_toDigits, String.length_ofList]
  have hpos : 0 < (Nat.toDigits 10 number).length := Nat.length_toDigits_pos
  have hone : (Nat.toDigits 10 number).length ≤ 1 ↔ number < 10 :=
    Nat.length_toDigits_le_iff (by decide) (by decide)
  have hblanks : 2 - number.repr.length = if number < 10 then 1 else 0 := by
    split <;> omega
  rw [rightAligned, hblanks]
  split <;> rfl

theorem line_eq_ok_iff : line number task = .ok row ↔ Shows number task row := by
  simp only [line, map_eq_ok_iff, Task.commandTexts_eq_ok_iff, Shows, ← rightAligned_two]
  exact exists_congr fun _ => and_congr_right fun _ => eq_comm

/-- Lines are printed one by one. -/
theorem linesFrom_eq (number : Nat) (tasks : List Task) :
    linesFrom number tasks = (tasks.zipIdx number).mapM fun (task, number) => line number task := by
  induction tasks generalizing number with
  | nil => rfl
  | cons task rest ih => rw [linesFrom, List.zipIdx_cons, List.mapM_cons, ih]

theorem lines_eq_ok_iff : lines tasks = .ok printed ↔
    ∃ rows, printed = s!"Release plan ({tasks.length} task(s)):" :: rows ∧
      List.Forall₂ (fun (task, number) row => Shows number task row) (tasks.zipIdx 1) rows := by
  simp only [lines, linesFrom_eq, map_eq_ok_iff, mapM_eq_ok_iff, line_eq_ok_iff, @eq_comm _ printed]
  exact exists_congr fun _ => and_comm

theorem lines_failsOnly (tasks : List Task) : FailsOnly (· = .argumentNotText) (lines tasks) := by
  rw [lines, linesFrom_eq]
  refine FailsOnly.map (FailsOnly.mapM fun _ _ => ?_) _
  exact FailsOnly.map (fun _ => Task.commandTexts_eq_error) _

/-- A plan is printed when each of its commands is a row of texts. -/
theorem exists_lines_iff :
    (∃ printed, lines tasks = .ok printed) ↔ ∀ task ∈ tasks, task.IsRunnable := by
  simp only [lines, linesFrom_eq, map_eq_ok_iff]
  constructor
  · rintro ⟨_, rows, h, -⟩ task hm
    rw [← List.zipIdx_map_fst 1 tasks, List.mem_map] at hm
    obtain ⟨⟨_, number⟩, hm, rfl⟩ := hm
    obtain ⟨row, -, hrow⟩ := exists_of_mem_of_mapM h hm
    obtain ⟨command, hc, -⟩ := map_eq_ok_iff.1 hrow
    exact ⟨command, hc⟩
  · intro h
    have hline : ∀ entry ∈ tasks.zipIdx 1, ∃ row, line entry.2 entry.1 = .ok row := by
      rintro ⟨task, number⟩ hm
      obtain ⟨command, hc⟩ := h task (List.fst_mem_of_mem_zipIdx hm)
      exact ⟨_, map_eq_ok_iff.2 ⟨command, hc, rfl⟩⟩
    obtain ⟨rows, hrows⟩ := exists_mapM_eq_ok hline
    exact ⟨_, rows, hrows, rfl⟩

theorem lines_of_not_isRunnable (hm : task ∈ tasks) (h : ¬task.IsRunnable) :
    lines tasks = .error .argumentNotText := by
  cases hl : lines tasks with
  | ok printed => exact absurd (exists_lines_iff.1 ⟨printed, hl⟩ task hm) h
  | error fault => rw [lines_failsOnly tasks fault hl]

end Plan

end Greenlight
