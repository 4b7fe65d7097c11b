import Greenlight.Proofs.Campaign.Policies
import Mathlib.Logic.Relation

/-! # The life of a campaign

A campaign is called from outside, for a stop or for a run, in any order and any number of times. Main
statement: it is run once, its phase only goes on, and calls that come later leave no trace but their
stop requests. -/

namespace Greenlight

open Relation

/-- One phase comes right after another one. -/
inductive Phase.Next : Phase → Phase → Prop where
  | starts : Next .idle .running
  | completes : Next .running .completed
  | aborts : Next .running .aborted

/-- What a campaign is called for. -/
inductive Call where
  | requestStop (reason : String)
  | run (tasks : List Task)

/-- The reason of a stop request. -/
def Call.reason? : Call → Option String
  | .requestStop reason => some reason
  | .run _ => none

/-- No run is among some calls. -/
def Call.AreStops (calls : List Call) : Prop := ∀ tasks, Call.run tasks ∉ calls

namespace Campaign

variable {σ : Type}

/-- The campaign after a call. -/
def call (setup : Setup) (sur : Surroundings σ) (policy : Policy) (c : Campaign σ) :
    Call → Campaign σ
  | .requestStop reason => c.requestStop reason
  | .run tasks => (c.run setup sur policy tasks).2

/-- The campaign after several calls. -/
def afterCalls (setup : Setup) (sur : Surroundings σ) (policy : Policy) (calls : List Call)
    (c : Campaign σ) : Campaign σ :=
  calls.foldl (call setup sur policy) c

variable {setup : Setup} {sur : Surroundings σ} {policy : Policy} {tasks : List Task}
  {c next : Campaign σ}

theorem afterCalls_append (earlier later : List Call) :
    c.afterCalls setup sur policy (earlier ++ later) =
      (c.afterCalls setup sur policy earlier).afterCalls setup sur policy later :=
  List.foldl_append

/-! ## Calls that come to stop requests -/

/-- A run of a campaign that has started is refused and changes nothing. -/
theorem run_of_phase_ne_idle (h : c.phase ≠ .idle) (tasks : List Task) :
    c.run setup sur policy tasks = (.error (.lifecycle (.alreadyRan c.phase.name)), c) := by
  rw [run, if_pos h]

theorem call_eq_requestStops {call : Call} (h : c.phase ≠ .idle ∨ ∀ tasks, .run tasks ≠ call) :
    c.call setup sur policy call = c.requestStops call.reason?.toList := by
  cases call with
  | requestStop reason => rfl
  | run tasks =>
    have hne : c.phase ≠ .idle := h.resolve_right fun hs => hs tasks rfl
    exact congrArg Prod.snd (run_of_phase_ne_idle hne tasks)

/-- Once a campaign has started, and before it is run, calls come to their stop requests. -/
theorem afterCalls_eq_requestStops {calls : List Call}
    (h : c.phase ≠ .idle ∨ Call.AreStops calls) :
    c.afterCalls setup sur policy calls = c.requestStops (calls.filterMap Call.reason?) := by
  induction calls generalizing c with
  | nil => rfl
  | cons first rest ih =>
    have hfirst : c.call setup sur policy first = c.requestStops first.reason?.toList :=
      call_eq_requestStops (h.imp_right fun hs tasks he => hs tasks (he ▸ List.mem_cons_self))
    have hrest : (c.call setup sur policy first).phase ≠ .idle ∨ Call.AreStops rest := by
      rw [hfirst, phase_requestStops]
      exact h.imp_right fun hs tasks hm => hs tasks (List.mem_cons_of_mem first hm)
    calc c.afterCalls setup sur policy (first :: rest)
        = (c.call setup sur policy first).requestStops (rest.filterMap Call.reason?) := ih hrest
      _ = (c.requestStops first.reason?.toList).requestStops (rest.filterMap Call.reason?) := by
        rw [hfirst]
      _ = c.requestStops (first.reason?.toList ++ rest.filterMap Call.reason?) :=
        List.foldl_append.symm
      _ = c.requestStops ((first :: rest).filterMap Call.reason?) := by
        cases first <;> rfl

/-! ## The phase during a run -/

/-- From one campaign to another the phase stays as it is, also while the runner or the observer is at
work. -/
structure Lasts (c next : Campaign σ) : Prop where
  phase : next.phase = c.phase
  phases : ∃ moments, next.phases = c.phases ++ List.replicate moments c.phase

namespace Lasts

variable {last : Campaign σ}

theorem refl (c : Campaign σ) : c.Lasts c := ⟨rfl, 0, by simp⟩

theorem trans (h : c.Lasts next) (hn : next.Lasts last) : c.Lasts last := by
  obtain ⟨hphase, moments, hphases⟩ := h
  obtain ⟨hlast, more, hmore⟩ := hn
  rw [hphase] at hlast hmore
  refine ⟨hlast, moments + more, ?_⟩
  rw [hmore, hphases, List.append_assoc, List.replicate_append_replicate]

end Lasts

theorem note_lasts (level : LogLevel) (message : String) (c : Campaign σ) :
    c.Lasts (c.note level message) := ⟨rfl, (Lasts.refl c).phases⟩

theorem ask_lasts (sur : Surroundings σ) (request : Request) (c : Campaign σ) :
    c.Lasts (c.ask sur request).2 := by
  constructor
  · exact phase_requestStops _ c
  · exact ⟨1, congrArg₂ (· ++ [·]) (phases_requestStops _ c) (phase_requestStops _ c)⟩

theorem execute_lasts (setup : Setup) (sur : Surroundings σ) (task : Task) (sequence : Option Int)
    (watchesStop : Bool) (c : Campaign σ) :
    c.Lasts (c.execute setup sur task sequence watchesStop).2 := by
  unfold execute
  split
  · exact .refl c
  · exact (note_lasts _ _ c).trans (ask_lasts sur _ _)

theorem runTask_lasts (setup : Setup) (sur : Surroundings σ) (policy : Policy) (place : Nat)
    (task : Task) (c : Campaign σ) : c.Lasts (c.runTask setup sur policy place task).2 := by
  have he := (note_lasts .info s!"Task {task.id} started: {task.description}" c).trans
    (execute_lasts setup sur task (some place) true _)
  unfold runTask
  dsimp only
  split
  · next h => rwa [h] at he
  · next h =>
      rw [h] at he
      exact he.trans (note_lasts _ _ _)
  · next h => rwa [h] at he

theorem show_lasts (sur : Surroundings σ) (task : Task) (o : Outcome) (c : Campaign σ) :
    c.Lasts (c.show_ sur task o).2 := by
  unfold show_
  cases sur.observe with
  | none => exact .refl c
  | some observe => exact ⟨phase_requestStops _ c, 1, rfl⟩

theorem noteOutcome_lasts (task : Task) (o : Outcome) (remaining : Nat) (c : Campaign σ) :
    c.Lasts (c.noteOutcome task o remaining) := by
  obtain ⟨level, message, h⟩ := noteOutcome_eq_note task o remaining c
  rw [h]
  exact note_lasts level message c

theorem turn_lasts {place : Nat} {task : Task} {o : Outcome} {fault : Option Fault}
    {ran seen : Campaign σ} (hr : c.runTask setup sur policy place task = (.ok o, ran))
    (hw : ran.show_ sur task o = (fault, seen)) : c.Lasts seen := by
  have hrun := runTask_lasts setup sur policy place task c
  have hshow := show_lasts sur task o ran
  rw [hr] at hrun
  rw [hw] at hshow
  exact hrun.trans hshow

/-- The phase stays as it is while a queue is run, however the run ends. -/
theorem runQueue_lasts (setup : Setup) (sur : Surroundings σ) (policy : Policy) (place : Nat)
    (tasks : List Task) (c : Campaign σ) :
    c.Lasts (c.runQueue setup sur policy place tasks).campaign := by
  fun_induction runQueue setup sur policy place tasks c with
  | case1 place c => exact .refl c
  | case2 place task rest c hs => exact .refl c
  | case3 place task rest c hs fault ran hr =>
    have hrun := runTask_lasts setup sur policy place task c
    rwa [hr] at hrun
  | case4 place task rest c hs o ran hr fault seen hw => exact turn_lasts hr hw
  | case5 place task rest c hs o ran hr seen hw noted hb =>
    exact (turn_lasts hr hw).trans (noteOutcome_lasts task o rest.length seen)
  | case6 place task rest c hs o ran hr seen hw noted hb run ih =>
    exact ((turn_lasts hr hw).trans (noteOutcome_lasts task o rest.length seen)).trans ih

/-- What a run of a campaign that has not started comes to. While the runner and the observer are at
work it is running; afterwards it is in the phase of its report, or still running if it broke off. -/
theorem run_phases (hc : c.phase = .idle) {answer : Except Fault Report}
    (h : c.run setup sur policy tasks = (answer, next)) :
    (∃ moments, next.phases = c.phases ++ List.replicate moments .running) ∧
      ((∃ fault, answer = .error fault ∧ next.phase = .running) ∨
        ∃ report, answer = .ok report ∧ next.phase = report.phase ∧
          (report.phase = .completed ∨ report.phase = .aborted)) := by
  obtain ⟨moments, hphases⟩ := (runQueue_lasts setup sur policy 1 tasks (c.underway tasks)).phases
  cases answer with
  | error fault =>
    obtain ⟨-, rfl⟩ := (run_eq_error_iff hc).1 h
    exact ⟨⟨moments, hphases⟩, .inl ⟨fault, rfl, rfl⟩⟩
  | ok report =>
    obtain ⟨legs, rest, ending, hs⟩ := run_spec h
    obtain ⟨-, hreport, rfl⟩ := (run_eq_ok_iff hc).1 h
    refine ⟨⟨moments, hphases⟩, .inr ⟨report, rfl, ?_, hs.phase_eq_completed_or_aborted⟩⟩
    rw [hreport]
    rfl

theorem phase_run (hc : c.phase = .idle) (tasks : List Task) :
    let reached := (c.run setup sur policy tasks).2.phase
    reached = .running ∨ reached = .completed ∨ reached = .aborted := by
  obtain ⟨-, ⟨_, -, hphase⟩ | ⟨_, -, hphase, hends⟩⟩ := run_phases hc (Prod.eta _).symm
  · exact .inl hphase
  · rw [hphase]
    exact .inr hends

/-- A call leaves the phase as it is, or takes it on. -/
theorem reflTransGen_call (c : Campaign σ) (call : Call) :
    ReflTransGen Phase.Next c.phase (c.call setup sur policy call).phase := by
  by_cases h : c.phase ≠ .idle ∨ ∀ tasks, .run tasks ≠ call
  · rw [call_eq_requestStops h, phase_requestStops]
  · simp only [not_or, not_not, not_forall] at h
    obtain ⟨hidle, tasks, rfl⟩ := h
    rw [hidle]
    have hstarts : ReflTransGen Phase.Next .idle .running := .single .starts
    rcases phase_run hidle tasks with h | h | h
    · exact h ▸ hstarts
    · exact h ▸ hstarts.tail .completes
    · exact h ▸ hstarts.tail .aborts

/-- A stop that was requested before keeps the run from its first task. -/
theorem run_of_stopRequested (hc : c.phase = .idle) (hs : c.stopRequested = true) (hne : tasks ≠ []) :
    ∃ report next, c.run setup sur policy tasks = (.ok report, next) ∧ report.phase = .aborted ∧
      report.outcomes = [] ∧ report.notRun = tasks.map Task.id ∧ next.asked = c.asked := by
  obtain ⟨first, rest, rfl⟩ := List.exists_cons_of_ne_nil hne
  have hqueue : (c.underway (first :: rest)).runQueue setup sur policy 1 (first :: rest) =
      ⟨.stopped, [], first :: rest, c.underway (first :: rest)⟩ := runQueue_of_stopRequested hs
  refine ⟨_, _, (run_eq_ok_iff hc).2 ⟨?_, rfl, rfl⟩, ?_⟩
  · rw [hqueue]
    exact fun _ => nofun
  · rw [hqueue]
    exact ⟨rfl, rfl, rfl, rfl⟩

/-! ## The whole life -/

section

variable {earlier : List Call}

theorem phase_afterCalls_of_areStops (hc : c.phase = .idle) (hs : Call.AreStops earlier) :
    (c.afterCalls setup sur policy earlier).phase = .idle := by
  rw [afterCalls_eq_requestStops (.inr hs), phase_requestStops, hc]

/-- A campaign has started once a run was among its calls. -/
theorem phase_afterCalls_ne_idle (hc : c.phase = .idle) (hm : Call.run tasks ∈ earlier) :
    (c.afterCalls setup sur policy earlier).phase ≠ .idle := by
  induction earlier generalizing c with
  | nil => cases hm
  | cons first rest ih =>
    change ((c.call setup sur policy first).afterCalls setup sur policy rest).phase ≠ .idle
    cases first with
    | requestStop reason =>
      refine ih ?_ ((List.mem_cons.1 hm).resolve_left nofun)
      exact (phase_requestStops [reason] c).trans hc
    | run first =>
      have hstarted : (c.call setup sur policy (.run first)).phase ≠ .idle := by
        rcases phase_run hc first with h | h | h
        · exact h ▸ nofun
        · exact h ▸ nofun
        · exact h ▸ nofun
      rwa [afterCalls_eq_requestStops (.inl hstarted), phase_requestStops]

end

/-- Whatever a campaign is called for, it is run once. -/
structure LivesOnce (setup : Setup) (sur : Surroundings σ) (policy : Policy) (c : Campaign σ) :
    Prop where
  /-- No call takes the phase back. -/
  goesOn : ∀ earlier call, ReflTransGen Phase.Next (c.afterCalls setup sur policy earlier).phase
    (c.afterCalls setup sur policy (earlier ++ [call])).phase
  /-- Before the first run nothing is asked or shown. -/
  waits : ∀ earlier, Call.AreStops earlier →
    let reached := c.afterCalls setup sur policy earlier
    reached.phase = .idle ∧ reached.asked = c.asked ∧ reached.seen = c.seen
  /-- The first run: the campaign is running whenever the runner or the observer is at work. -/
  runs : ∀ earlier tasks answer next, Call.AreStops earlier →
    (c.afterCalls setup sur policy earlier).run setup sur policy tasks = (answer, next) →
    (∃ moments, next.phases = c.phases ++ List.replicate moments .running) ∧
      ((∃ fault, answer = .error fault ∧ next.phase = .running) ∨
        ∃ report, answer = .ok report ∧ next.phase = report.phase ∧
          (report.phase = .completed ∨ report.phase = .aborted))
  /-- A later run is refused and changes nothing. -/
  refuses : ∀ earlier ran tasks, Call.run ran ∈ earlier →
    let reached := c.afterCalls setup sur policy earlier
    reached.run setup sur policy tasks =
      (.error (.lifecycle (.alreadyRan reached.phase.name)), reached)
  /-- After the first run nothing is asked or shown, and the phase does not change. -/
  rests : ∀ earlier ran later, Call.run ran ∈ earlier →
    let reached := c.afterCalls setup sur policy earlier
    let last := c.afterCalls setup sur policy (earlier ++ later)
    last.phase = reached.phase ∧ last.asked = reached.asked ∧ last.seen = reached.seen
  /-- Calls that come while the campaign is running come to their stop requests. -/
  nested : ∀ (running : Campaign σ) calls, running.phase = .running →
    running.afterCalls setup sur policy calls = running.requestStops (calls.filterMap Call.reason?)
  /-- A stop before the first run keeps it from all tasks. -/
  stopped : ∀ earlier tasks, Call.AreStops earlier → earlier ≠ [] → tasks ≠ [] →
    ∃ report next,
      (c.afterCalls setup sur policy earlier).run setup sur policy tasks = (.ok report, next) ∧
        report.phase = .aborted ∧ report.outcomes = [] ∧ report.notRun = tasks.map Task.id ∧
        next.asked = c.asked

theorem livesOnce (setup : Setup) (sur : Surroundings σ) (policy : Policy) (hc : c.phase = .idle) :
    c.LivesOnce setup sur policy := by
  constructor
  · intro earlier call
    rw [afterCalls_append]
    exact reflTransGen_call _ call
  · intro earlier hs
    dsimp only
    rw [afterCalls_eq_requestStops (.inr hs), phase_requestStops, asked_requestStops,
      seen_requestStops]
    exact ⟨hc, rfl, rfl⟩
  · intro earlier tasks answer next hs hrun
    have hphases := run_phases (phase_afterCalls_of_areStops hc hs) hrun
    rwa [afterCalls_eq_requestStops (.inr hs), phases_requestStops] at hphases
  · intro earlier ran tasks hm
    exact run_of_phase_ne_idle (phase_afterCalls_ne_idle hc hm) tasks
  · intro earlier ran later hm
    have hne : (c.afterCalls setup sur policy earlier).phase ≠ .idle :=
      phase_afterCalls_ne_idle hc hm
    dsimp only
    rw [afterCalls_append, afterCalls_eq_requestStops (.inl hne), phase_requestStops,
      asked_requestStops, seen_requestStops]
    exact ⟨rfl, rfl, rfl⟩
  · intro running calls hr
    exact afterCalls_eq_requestStops (.inl (hr ▸ nofun))
  · intro earlier tasks hs he hne
    have hidle : (c.afterCalls setup sur policy earlier).phase = .idle :=
      phase_afterCalls_of_areStops hc hs
    have hasked : (c.afterCalls setup sur policy earlier).asked = c.asked := by
      rw [afterCalls_eq_requestStops (.inr hs), asked_requestStops]
    rw [← hasked]
    refine run_of_stopRequested hidle ?_ hne
    rw [afterCalls_eq_requestStops (.inr hs), stopRequested_requestStops]
    right
    obtain ⟨first, rest, rfl⟩ := List.exists_cons_of_ne_nil he
    cases first with
    | requestStop reason => exact List.cons_ne_nil _ _
    | run tasks => exact absurd List.mem_cons_self (hs tasks)

/-- A run that the observer breaks off leaves its campaign running; the next run is refused. -/
theorem livesOnce_brokenOff :
    let c := idle [((ends 0).1, ⟨["SIGINT"], some .pathNotText⟩)]
    let tasks := [plainTask "lint" .advisory, plainTask "docs" .blocking]
    let broken := c.afterCalls plainSetup playing ⟨false, true⟩ [.run tasks]
    c.phase = .idle ∧ broken.phase = .running ∧ broken.asked.length = 1 ∧
      broken.stopRequested = true ∧
      (broken.run plainSetup playing ⟨false, true⟩ tasks).1 =
        .error (.lifecycle (.alreadyRan "running")) ∧
      c.LivesOnce plainSetup playing ⟨false, true⟩ :=
  ⟨rfl, rfl, rfl, rfl, rfl, livesOnce _ _ _ rfl⟩

end Campaign

end Greenlight
