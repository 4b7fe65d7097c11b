import Greenlight.Proofs.Campaign.ExitCodes
import Greenlight.Proofs.Process.Questions

/-! # Interrupted commands

A runner hears of a stop by asking for it. If it reports an interruption only after it was told of a stop,
then the report of the run accounts for the interruption. -/

namespace Greenlight

/-! ## What a runner is told -/

/-- What happens between a campaign and its runner while a command runs: a stop is requested, or the runner
asks whether one is. -/
inductive Exchange where
  | stop (reason : String)
  | question

namespace Exchange

/-- The stops among some exchanges, with their reasons. -/
def stops : List Exchange → List String
  | [] => []
  | .stop reason :: rest => reason :: stops rest
  | .question :: rest => stops rest

/-- The answers to the questions; the flag says whether a stop was requested before. -/
def answers (requested : Bool) : List Exchange → List Bool
  | [] => []
  | .stop _ :: rest => answers true rest
  | .question :: rest => requested :: answers requested rest

/-- If there was no stop before, a yes comes after a stop. -/
theorem stops_ne_nil_of_answers {exchanges : List Exchange} (h : true ∈ answers false exchanges) :
    stops exchanges ≠ [] := by
  induction exchanges with
  | nil => cases h
  | cons exchange rest ih =>
    cases exchange with
    | stop reason => exact List.cons_ne_nil _ _
    | question => exact ih ((List.mem_cons.1 h).resolve_left Bool.false_ne_true.symm)

end Exchange

/-- The answer of an event is warranted: its stops came in such a way between the questions of the runner
that an interruption is reported only after a yes. -/
def RunEvent.IsWarranted (event : RunEvent) (requested : Bool) : Prop :=
  ∃ exchanges, Exchange.stops exchanges = event.stops ∧
    event.answer.IsWarranted (Exchange.answers requested exchanges)

theorem Outcome.Reads.blocks_of_isInterrupted {o : Outcome} {policy : Policy} {task : Task}
    {answer : Answer} (h : o.Reads policy task answer) (hi : answer.IsInterrupted) :
    o.blocks = true := by
  rw [← Bool.not_eq_false, h.blocks_eq_false_iff]
  rintro ⟨status, he, -⟩
  cases answer with
  | notStarted cause => exact hi
  | broke fault => exact hi
  | finished result => exact Bool.false_ne_true (he.2.1.symm.trans hi.2)

namespace Campaign

variable {σ : Type} {setup : Setup} {sur : Surroundings σ} {policy : Policy} {tasks : List Task}
  {c after : Campaign σ} {legs : List Leg} {rest : List Task} {ending : Ending} {report : Report}

/-- Whatever the runner answered in a run is warranted by what it was told. -/
def AnswersWarranted (stops : List String) (after : Campaign σ) : Prop :=
  ∀ (place : Nat) (asked : Asked), after.asked[place]? = some asked →
    asked.event.IsWarranted (!(stopsBefore stops after place).isEmpty)

/-- A report accounts for an interrupted outcome at a place. -/
structure AccountsForInterruption (report : Report) (place : Nat) (o : Outcome) : Prop where
  last : place + 1 = report.outcomes.length
  firstFailure : report.firstFailure = some o.taskId
  effective : o.effective = .blocking
  phase : report.phase = .aborted
  interrupted : report.interrupted = true
  exitCode : report.exitCode.number = 130

/-- An outcome that blocks is the last one. -/
theorem RunSpec.last_of_blocks (h : RunSpec setup sur policy tasks c legs rest ending report after)
    {place : Nat} {o : Outcome} (ho : report.outcomes[place]? = some o) (hb : o.blocks = true) :
    place + 1 = report.outcomes.length := by
  obtain ⟨hlt, rfl⟩ := List.getElem?_eq_some_iff.1 ho
  by_contra hne
  have hearly : place < report.outcomes.dropLast.length := by
    rw [List.length_dropLast]
    omega
  have hgoesOn := h.dropLast_outcomes _ (List.getElem_mem hearly)
  rw [List.getElem_dropLast, hb] at hgoesOn
  cases hgoesOn

/-- An interruption that is warranted sets the stop flag, as no stop was requested when its command was
started. -/
theorem RunSpec.stopRequested_of_isInterrupted {world : σ} {stops : List String}
    (h : RunSpec setup sur policy tasks (waiting world stops) legs rest ending report after)
    (hw : AnswersWarranted stops after) {place : Nat} {leg : Leg} (hl : legs[place]? = some leg)
    (hi : leg.asked.event.answer.IsInterrupted) : after.stopRequested = true := by
  have hlt : place < legs.length := (List.getElem?_eq_some_iff.1 hl).1
  have hasked : after.asked[place]? = some leg.asked := by
    rw [h.asked_eq, List.getElem?_map, hl]
    rfl
  obtain ⟨exchanges, hstops, hanswer⟩ := hw place leg.asked hasked
  rw [h.stopsBefore_eq_nil hlt] at hanswer
  have hyes : true ∈ Exchange.answers false exchanges := by
    cases ha : leg.asked.event.answer with
    | notStarted cause => exact (ha ▸ hi).elim
    | broke fault => exact (ha ▸ hi).elim
    | finished result =>
      rw [ha] at hi
      exact hanswer result ha hi.2
  have hne : leg.asked.event.stops ≠ [] := hstops ▸ Exchange.stops_ne_nil_of_answers hyes
  rw [h.leads.stopRequested]
  right
  rw [ne_eq, List.flatMap_eq_nil_iff]
  intro hnone
  exact hne (List.append_eq_nil_iff.1 (hnone leg (List.mem_of_getElem? hl))).1

/-- Interruptions are accounted for if the runner's answers are warranted, and those of a watch are. -/
theorem run_accountsForInterruption (world : σ) (stops : List String)
    (h : (waiting world stops).run setup sur policy tasks = (.ok report, after))
    (hw : AnswersWarranted stops after) :
    (∀ (place : Nat) o, report.outcomes[place]? = some o → o.failureKind = some .interrupted →
      AccountsForInterruption report place o) ∧
    ∀ (terms : Watch.Terms) looks count ending last stdout stderr,
      terms.run looks count = some (ending, last) →
      (Answer.finished (ending.result stdout stderr)).IsWarranted (terms.answers looks count) := by
  obtain ⟨legs, rest, ending, hs⟩ := run_spec h
  refine ⟨?_, fun terms looks count ending last stdout stderr hrun =>
    Watch.Terms.isWarranted_of_run hrun stdout stderr⟩
  intro place o ho hk
  have hleg := ho
  rw [hs.tells.outcomes, List.getElem?_map, Option.map_eq_some_iff] at hleg
  obtain ⟨leg, hl, rfl⟩ := hleg
  have hreads := (hs.fits leg (List.mem_of_getElem? hl)).outcome
  have hi : leg.asked.event.answer.IsInterrupted := hreads.interrupted_iff.1 hk
  have hb : leg.outcome.blocks = true := hreads.blocks_of_isInterrupted hi
  have hend : place + 1 = report.outcomes.length := hs.last_of_blocks ho hb
  have hlast : report.outcomes.getLast? = some leg.outcome := by
    rw [List.getLast?_eq_getElem?, ← hend]
    exact ho
  have hstop : report.interrupted = true :=
    hs.tells.interrupted.trans (hs.stopRequested_of_isInterrupted hw hl hi)
  have hp : report.phase = .aborted := hs.phase_eq_aborted_iff.2 (.inl ⟨_, hlast, hb⟩)
  constructor
  · exact hend
  · exact (hs.filter_blocks_eq hlast hb).2
  · simpa [Outcome.blocks] using (Bool.and_eq_true_iff.1 hb).2
  · exact hp
  · exact hstop
  · exact report.number_exitCode_eq_interrupted_iff.2 ⟨(hs.heedsStop_iff.2 hp).passed, hstop⟩

/-- A command that is interrupted is the last of its run, and a watch without grace is over at the first
yes. -/
theorem run_accountsForInterruption_secondTask :
    let tasks := [plainTask "lint" .advisory, plainTask "docs" .advisory, plainTask "msrv" .blocking]
    let interrupted := ⟨["SIGINT"], 0, .finished ⟨130, [], [], false, true⟩⟩
    let run := played ⟨false, false⟩ tasks [ends 0, (interrupted, ⟨[], none⟩)]
    let terms : Watch.Terms := ⟨0, none, some 0, true⟩
    let looks : Nat → Watch.Look := fun _ => ⟨none, 0, true⟩
    ∃ report o, run.1 = .ok report ∧ AnswersWarranted [] run.2 ∧ report.outcomes[1]? = some o ∧
      o.failureKind = some .interrupted ∧ AccountsForInterruption report 1 o ∧
      terms.run looks 1 = some (.stopped, 0) ∧ terms.answers looks 1 = [true] ∧
      (Answer.finished (Watch.Ending.stopped.result [] [])).IsWarranted (terms.answers looks 1) := by
  intro tasks interrupted run terms looks
  have hw : AnswersWarranted [] run.2 := by
    intro place asked ha
    match place with
    | 0 =>
      cases ha
      exact ⟨[], rfl, fun result hr hi => by cases hr; cases hi⟩
    | 1 =>
      cases ha
      exact ⟨[.question, .stop "SIGINT", .question], rfl, fun _ _ _ => by decide⟩
    | place + 2 => cases ha
  obtain ⟨report, o, h, ho, hk⟩ : ∃ report o, run.1 = .ok report ∧ report.outcomes[1]? = some o ∧
      o.failureKind = some .interrupted := ⟨_, _, rfl, rfl, rfl⟩
  have hrun : terms.run looks 1 = some (.stopped, 0) := by decide +kernel
  obtain ⟨haccounts, hwatch⟩ := run_accountsForInterruption _ [] (Prod.ext h rfl) hw
  exact ⟨report, o, h, hw, ho, hk, haccounts 1 o ho hk, hrun, by decide +kernel,
    hwatch terms looks 1 .stopped 0 [] [] hrun⟩

end Campaign

end Greenlight
