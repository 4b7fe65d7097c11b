import Greenlight.Proofs.Campaign.Turn

/-! # Derivations of a run

The rules of a queue are said apart from the program that runs it, with the legs of its turns. What a run
keeps is proved by induction over these rules. -/

namespace Greenlight.Campaign

variable {σ : Type}

/-! ## The rules -/

/-- The rules by which a queue is run from a place on. They do not invoke the runner. -/
inductive QueueDerivation (setup : Setup) (sur : Surroundings σ) (policy : Policy) :
    Nat → List Task → Campaign σ → List Leg → QueueRun σ → Prop where
  | drained (place c) : QueueDerivation setup sur policy place [] c [] ⟨.drained, [], [], c⟩
  | stopped (place task rest c) (hs : c.stopRequested = true) :
      QueueDerivation setup sur policy place (task :: rest) c [] ⟨.stopped, [], task :: rest, c⟩
  | blocked {leg rest c next} (hs : c.stopRequested = false) (hf : leg.Fits setup sur policy)
      (hl : Leads [leg] c next) (hb : leg.outcome.blocks = true) :
      QueueDerivation setup sur policy leg.place (leg.task :: rest) c [leg]
        ⟨.blockedBy leg.task.id, [leg.outcome], rest, next⟩
  | goesOn {leg rest c next legs run} (hs : c.stopRequested = false) (hf : leg.Fits setup sur policy)
      (hl : Leads [leg] c next) (hb : leg.outcome.blocks = false) :
      QueueDerivation setup sur policy (leg.place + 1) rest next legs run →
      QueueDerivation setup sur policy leg.place (leg.task :: rest) c (leg :: legs)
        { run with outcomes := leg.outcome :: run.outcomes }

/-- A run of the queue that nothing breaks off follows the rules. -/
theorem runQueue_derivation (setup : Setup) (sur : Surroundings σ) (policy : Policy) (place : Nat)
    (tasks : List Task) (c : Campaign σ)
    (h : ∀ fault, (c.runQueue setup sur policy place tasks).ending ≠ .broke fault) :
    ∃ legs, QueueDerivation setup sur policy place tasks c legs
      (c.runQueue setup sur policy place tasks) := by
  fun_induction runQueue setup sur policy place tasks c with
  | case1 place c => exact ⟨[], .drained place c⟩
  | case2 place task rest c hs => exact ⟨[], .stopped place task rest c hs⟩
  | case3 place task rest c hs fault ran hr => exact absurd rfl (h fault)
  | case4 place task rest c hs o ran hr fault seen hw => exact absurd rfl (h fault)
  | case5 place task rest c hs o ran hr seen hw noted hb =>
    obtain ⟨leg, rfl, rfl, rfl, hf, hl⟩ := turn_leg rest.length hr hw
    exact ⟨[leg], .blocked (Bool.eq_false_iff.2 hs) hf hl hb⟩
  | case6 place task rest c hs o ran hr seen hw noted hb run ih =>
    obtain ⟨leg, rfl, rfl, rfl, hf, hl⟩ := turn_leg rest.length hr hw
    obtain ⟨legs, hd⟩ := ih h
    exact ⟨leg :: legs, .goesOn (Bool.eq_false_iff.2 hs) hf hl (Bool.eq_false_iff.2 hb) hd⟩

/-! ## Endings -/

/-- How a run of the queue ends, after its legs, with the tasks that are left. -/
inductive Ending.Follows (stopRequested : Bool) : List Leg → List Task → Ending → Prop where
  | drained {legs} (hb : ∀ leg ∈ legs, leg.outcome.blocks = false) :
      Follows stopRequested legs [] .drained
  | stopped {legs task rest} (hs : stopRequested = true)
      (hb : ∀ leg ∈ legs, leg.outcome.blocks = false) :
      Follows stopRequested legs (task :: rest) .stopped
  | blockedBy {legs last rest} (hb : ∀ leg ∈ legs, leg.outcome.blocks = false)
      (hl : last.outcome.blocks = true) :
      Follows stopRequested (legs ++ [last]) rest (.blockedBy last.task.id)

namespace Ending.Follows

variable {stopRequested : Bool} {legs : List Leg} {rest : List Task} {ending : Ending}

theorem cons {leg : Leg} (hb : leg.outcome.blocks = false)
    (h : Follows stopRequested legs rest ending) : Follows stopRequested (leg :: legs) rest ending := by
  cases h with
  | drained hbs => exact .drained (List.forall_mem_cons.2 ⟨hb, hbs⟩)
  | stopped hs hbs => exact .stopped hs (List.forall_mem_cons.2 ⟨hb, hbs⟩)
  | blockedBy hbs hl => exact .blockedBy (List.forall_mem_cons.2 ⟨hb, hbs⟩) hl

/-- Only the last leg may block. -/
theorem dropLast_goesOn (h : Follows stopRequested legs rest ending) :
    ∀ leg ∈ legs.dropLast, leg.outcome.blocks = false := by
  cases h with
  | drained hb => exact fun leg hm => hb leg (List.dropLast_subset _ hm)
  | stopped hs hb => exact fun leg hm => hb leg (List.dropLast_subset _ hm)
  | blockedBy hb hl => simpa using hb

theorem phase_eq_completed_or_aborted (h : Follows stopRequested legs rest ending) :
    ending.phase = .completed ∨ ending.phase = .aborted := by
  cases h with
  | drained hb => exact .inl rfl
  | stopped hs hb => exact .inr rfl
  | blockedBy hb hl => exact .inr rfl

/-- A run is completed when every task was executed and none of them blocked. -/
theorem phase_eq_completed_iff (h : Follows stopRequested legs rest ending) :
    ending.phase = .completed ↔ rest = [] ∧ ∀ leg ∈ legs, leg.outcome.blocks = false := by
  cases h with
  | drained hb => exact iff_of_true rfl ⟨rfl, hb⟩
  | stopped hs hb => simp [Ending.phase]
  | blockedBy hb hl => simp [Ending.phase, hl]

/-- A run is aborted when its last leg blocks or tasks are left. -/
theorem phase_eq_aborted_iff (h : Follows stopRequested legs rest ending) :
    ending.phase = .aborted ↔
      (∃ last, legs.getLast? = some last ∧ last.outcome.blocks = true) ∨ rest ≠ [] := by
  cases h with
  | drained hb =>
    simp only [Ending.phase, reduceCtorEq, ne_eq, not_true_eq_false, or_false, false_iff]
    rintro ⟨last, hm, hl⟩
    rw [hb last (List.mem_of_getLast? hm)] at hl
    cases hl
  | stopped hs hb => simp [Ending.phase]
  | blockedBy hb hl => simp [Ending.phase, hl]

/-- The task that ended a run is the one whose leg comes last and blocks. -/
theorem blocker?_eq (h : Follows stopRequested legs rest ending) :
    ending.blocker? = (legs.getLast?.filter (·.outcome.blocks)).map (·.task.id) := by
  have hnone (hb : ∀ leg ∈ legs, leg.outcome.blocks = false) :
      legs.getLast?.filter (·.outcome.blocks) = none := by
    rw [Option.filter_eq_none_iff]
    intro last hm
    simp [hb last (List.mem_of_getLast? hm)]
  cases h with
  | drained hb => simp [Ending.blocker?, hnone hb]
  | stopped hs hb => simp [Ending.blocker?, hnone hb]
  | blockedBy hb hl => simp [Ending.blocker?, Option.filter, hl]

end Ending.Follows

/-! ## What a run of the queue keeps -/

section Invariants

variable {setup : Setup} {sur : Surroundings σ} {policy : Policy} {place : Nat} {tasks : List Task}
  {c : Campaign σ} {legs : List Leg} {run : QueueRun σ}

namespace QueueDerivation

theorem fits (h : QueueDerivation setup sur policy place tasks c legs run) :
    ∀ leg ∈ legs, leg.Fits setup sur policy := by
  induction h with
  | drained | stopped => simp
  | blocked hs hf hl hb => simpa using hf
  | goesOn hs hf hl hb _ ih => exact List.forall_mem_cons.2 ⟨hf, ih⟩

/-- No task is lost, repeated or moved. -/
theorem tasks_eq (h : QueueDerivation setup sur policy place tasks c legs run) :
    legs.map Leg.task ++ run.notRun = tasks := by
  induction h with
  | drained | stopped | blocked => rfl
  | goesOn hs hf hl hb _ ih => exact congrArg (_ :: ·) ih

theorem places_eq (h : QueueDerivation setup sur policy place tasks c legs run) :
    legs.map Leg.place = List.range' place legs.length := by
  induction h with
  | drained | stopped | blocked => rfl
  | goesOn hs hf hl hb _ ih => exact congrArg (_ :: ·) ih

theorem outcomes_eq (h : QueueDerivation setup sur policy place tasks c legs run) :
    run.outcomes = legs.map Leg.outcome := by
  induction h with
  | drained | stopped | blocked => rfl
  | goesOn hs hf hl hb _ ih => exact congrArg (_ :: ·) ih

theorem leads (h : QueueDerivation setup sur policy place tasks c legs run) :
    Leads legs c run.campaign := by
  induction h with
  | drained | stopped => exact Grows.refl _
  | blocked hs hf hl hb => exact hl
  | goesOn hs hf hl hb _ ih => exact hl.trans ih

/-- A turn is taken only while no stop is requested. -/
theorem stopRequested_eq_false (h : QueueDerivation setup sur policy place tasks c legs run)
    (hne : legs ≠ []) : c.stopRequested = false := by
  cases h with
  | drained | stopped => exact absurd rfl hne
  | blocked hs hf hl hb => exact hs
  | goesOn hs hf hl hb hd => exact hs

/-- A turn in which a stop is requested is the last one. -/
theorem dropLast_stops (h : QueueDerivation setup sur policy place tasks c legs run) :
    ∀ leg ∈ legs.dropLast, leg.stops = [] := by
  induction h with
  | drained | stopped | blocked => simp
  | @goesOn leg rest c next legs run hs hf hl hb hd ih =>
    by_cases hne : legs = []
    · simp [hne]
    · rw [List.dropLast_cons_of_ne_nil hne, List.forall_mem_cons]
      refine ⟨?_, ih⟩
      -- the next turn was taken, so the flag was still unset after this one
      have hn : ¬(c.stopRequested = true ∨ [leg].flatMap Leg.stops ≠ []) := by
        rw [← hl.stopRequested, hd.stopRequested_eq_false hne]
        exact Bool.false_ne_true
      simpa [hs] using hn

theorem ending_follows (h : QueueDerivation setup sur policy place tasks c legs run) :
    run.ending.Follows run.campaign.stopRequested legs run.notRun := by
  induction h with
  | drained => exact .drained (by simp)
  | stopped place task rest c hs => exact .stopped hs (by simp)
  | blocked hs hf hl hb => exact .blockedBy (List.forall_mem_nil _) hb
  | goesOn hs hf hl hb _ ih => exact ih.cons hb

end QueueDerivation

end Invariants

end Greenlight.Campaign
