import Greenlight.Proofs.Campaign.Run

/-! # Consistent outcomes

Outcomes are made in several places: for a command that succeeds, runs out of time, is interrupted, fails
or is not started, and once more where a strict policy escalates a failure. Main statement: whatever the
runner answers, the fields of every outcome of a report fit together. -/

namespace Greenlight

namespace Outcome

/-- The fields of an outcome fit together, under the policy that has weighed it. -/
structure IsConsistent (policy : Policy) (o : Outcome) : Prop where
  of_succeeded : o.succeeded = true →
    o.exitStatus = some 0 ∧ o.effective = o.declared ∧
      o.failureKind = none ∧ o.reason = none ∧ o.error = none ∧ o.details = none
  of_failed : o.succeeded = false →
    o.failureKind.isSome = true ∧ o.reason.isSome = true ∧ o.error.isSome = true
  details_iff : o.details.isSome = true ↔ o.failureKind = some .exitStatus
  /-- Details repeat the kind and the reason of the failure, which is that of a status. -/
  of_details : ∀ details, o.details = some details →
    details.lookup "failure_kind" = o.failureKind.map (.text ·.name) ∧
      details.lookup "reason_code" = o.reason.map .text ∧
      ∃ status, status ≠ 0 ∧ o.exitStatus = some status
  exitStatus_iff : o.exitStatus = none ↔ o.failureKind = some .notStarted
  paths_iff : o.stdoutPath = none ∧ o.stderrPath = none ↔ o.failureKind = some .notStarted
  paths_together : o.stdoutPath = none ↔ o.stderrPath = none
  declared_of_effective : o.effective = .advisory → o.declared = .advisory
  isEscalated_iff : o.isEscalated = true ↔
    o.succeeded = false ∧ o.declared = .advisory ∧
      (o.failureKind ≠ some .exitStatus ∨ policy.strictAdvisory = true)

variable {policy : Policy} {task : Task} {request : Request} {shown : ProcessResult} {seconds : Float}

/-! ## Where outcomes are made -/

theorem ofStartFailure_isConsistent (policy : Policy) (task : Task) (message : String) :
    (ofStartFailure task message).IsConsistent policy := by
  constructor
  case isEscalated_iff => cases h : task.severity <;> simp [isEscalated, ofStartFailure, h]
  all_goals simp [ofStartFailure]

theorem ofSuccess_isConsistent (hz : shown.exitStatus = 0) :
    (ofSuccess task request shown seconds).IsConsistent policy := by
  constructor
  all_goals simp [ofSuccess, isEscalated, hz]

/-- A command that was ended from outside blocks, whatever its task declares. -/
theorem endedFromOutside_isConsistent {kind : FailureKind} {reason error : String}
    (hs : kind ≠ .exitStatus) (hn : kind ≠ .notStarted) :
    ((ofSuccess task request shown seconds).failed kind .blocking reason error).IsConsistent
      policy := by
  constructor
  case isEscalated_iff =>
    cases h : task.severity <;> simp [isEscalated, ofSuccess, Outcome.failed, h, hs]
  all_goals simp [ofSuccess, Outcome.failed, hs, hn]

/-- A failure with a status weighs what its task declares, as long as the policy is not strict. -/
theorem endedWithStatus_isConsistent {error : String} (d : Diagnosis)
    (hp : policy.strictAdvisory = false) (hz : shown.exitStatus ≠ 0) :
    { (ofSuccess task request shown seconds).failed .exitStatus task.severity d.code error with
        details := some (d.details FailureKind.exitStatus.name) }.IsConsistent policy := by
  constructor
  case of_details =>
    intro details hd
    obtain rfl := Option.some.inj hd
    exact ⟨rfl, rfl, shown.exitStatus, hz, rfl⟩
  all_goals simp [ofSuccess, Outcome.failed, isEscalated, hp]

theorem ofResult_isConsistent {previewBytes : Int} {result : ProcessResult} {o : Outcome}
    (hp : policy.strictAdvisory = false)
    (h : ofResult task request previewBytes result seconds = .ok o) : o.IsConsistent policy := by
  unfold ofResult at h
  dsimp only at h
  split at h
  · split at h
    · cases h
    · cases h
      apply endedFromOutside_isConsistent <;> decide
  · split at h
    · cases h
      apply endedFromOutside_isConsistent <;> decide
    · split at h
      · next hz =>
          cases h
          exact ofSuccess_isConsistent hz
      · next hz =>
          cases h
          exact endedWithStatus_isConsistent _ hp hz

/-! ## Weighing -/

/-- Escalating an advisory failure is all that a strict policy does to an outcome. -/
theorem weigh_isConsistent {o : Outcome} {fatal : Bool} (h : o.IsConsistent ⟨false, fatal⟩) :
    (Campaign.weigh policy o).IsConsistent policy := by
  have hlax : o.isEscalated = true ↔
      o.succeeded = false ∧ o.declared = .advisory ∧ o.failureKind ≠ some .exitStatus := by
    simpa using h.isEscalated_iff
  unfold Campaign.weigh
  split
  · next hw =>
      simp only [isAdvisoryFailure, Bool.and_eq_true, Bool.not_eq_true', beq_iff_eq] at hw
      obtain ⟨⟨hfailed, heffective⟩, hstrict⟩ := hw
      have hdeclared : o.declared = .advisory := h.declared_of_effective heffective
      refine { h with of_succeeded := ?_, declared_of_effective := ?_, isEscalated_iff := ?_ }
      · intro hs
        exact absurd (hs.symm.trans hfailed) (by decide)
      · intro hb
        cases hb
      · simp [isEscalated, escalate, hfailed, hdeclared, hstrict]
  · next hw =>
      refine { h with isEscalated_iff := ?_ }
      rw [hlax]
      constructor
      · rintro ⟨hfailed, hdeclared, hkind⟩
        exact ⟨hfailed, hdeclared, .inl hkind⟩
      · rintro ⟨hfailed, hdeclared, hkind | hstrict⟩
        · exact ⟨hfailed, hdeclared, hkind⟩
        · -- were its kind that of a status, it would be an advisory failure and have been escalated
          have heffective : o.effective ≠ .advisory := by
            intro he
            exact hw (by simp [isAdvisoryFailure, hfailed, he, hstrict])
          have hescalated : o.isEscalated = true := by
            simpa [isEscalated, hdeclared] using heffective.symm
          exact hlax.1 hescalated

end Outcome

namespace Campaign

variable {σ : Type} {setup : Setup} {sur : Surroundings σ} {policy : Policy} {tasks : List Task}
  {c after : Campaign σ} {report : Report}

/-! ## From a turn to a run -/

theorem judge_isConsistent {task : Task} {request : Request} {seconds : Float} {answer : Answer}
    {o : Outcome} (h : judge setup task request seconds answer = .ok o) :
    (weigh policy o).IsConsistent policy := by
  cases answer with
  | notStarted cause => cases h
  | broke fault => cases h
  | finished result =>
    have hlax : o.IsConsistent ⟨false, true⟩ := Outcome.ofResult_isConsistent rfl h
    exact Outcome.weigh_isConsistent hlax

theorem execute_isConsistent {task : Task} {sequence : Option Int} {watchesStop : Bool} {o : Outcome}
    (h : c.execute setup sur task sequence watchesStop = (.ok o, after)) :
    (weigh policy o).IsConsistent policy := by
  unfold execute at h
  split at h
  · cases h
  · exact judge_isConsistent (congrArg Prod.fst h)

theorem runTask_isConsistent {place : Nat} {task : Task} {o : Outcome}
    (h : c.runTask setup sur policy place task = (.ok o, after)) : o.IsConsistent policy := by
  unfold runTask at h
  dsimp only at h
  split at h
  · next outcome ran he =>
      cases h
      exact execute_isConsistent he
  · cases h
    apply Outcome.ofStartFailure_isConsistent
  · cases h

/-- A run of the queue records consistent outcomes, also when it is broken off. -/
theorem runQueue_isConsistent (setup : Setup) (sur : Surroundings σ) (policy : Policy) (place : Nat)
    (tasks : List Task) (c : Campaign σ) :
    ∀ o ∈ (c.runQueue setup sur policy place tasks).outcomes, o.IsConsistent policy := by
  fun_induction runQueue setup sur policy place tasks c with
  | case1 place c => simp
  | case2 place task rest c hs => simp
  | case3 place task rest c hs fault ran hr => simp
  | case4 place task rest c hs o ran hr fault seen hw =>
    simpa using runTask_isConsistent hr
  | case5 place task rest c hs o ran hr seen hw noted hb =>
    simpa using runTask_isConsistent hr
  | case6 place task rest c hs o ran hr seen hw noted hb run ih =>
    exact List.forall_mem_cons.2 ⟨runTask_isConsistent hr, ih⟩

theorem outcomes_of_run (h : c.run setup sur policy tasks = (.ok report, after)) :
    ∃ started : Campaign σ,
      report.outcomes = (started.runQueue setup sur policy 1 tasks).outcomes := by
  unfold run at h
  split at h
  · cases h
  · dsimp only at h
    split at h
    · cases h
    · cases h
      exact ⟨_, rfl⟩

/-- Every outcome of a report is consistent. -/
theorem run_recordsConsistently (h : c.run setup sur policy tasks = (.ok report, after)) :
    ∀ o ∈ report.outcomes, o.IsConsistent policy := by
  obtain ⟨started, ho⟩ := outcomes_of_run h
  rw [ho]
  exact runQueue_isConsistent setup sur policy 1 tasks started

/-- A strict policy escalates an advisory failure, and its outcome is consistent. -/
theorem run_recordsConsistently_escalated :
    let policy : Policy := ⟨true, true⟩
    let run := played policy [plainTask "lint" .advisory] [ends 7]
    ∃ report o, run.1 = .ok report ∧ o ∈ report.outcomes ∧ o.isEscalated = true ∧
      o.IsConsistent policy := by
  intro policy run
  obtain ⟨report, o, h, ho, he⟩ : ∃ report o, run.1 = .ok report ∧ report.outcomes = [o] ∧
      o.isEscalated = true := ⟨_, _, rfl, rfl, rfl⟩
  have hm : o ∈ report.outcomes := ho ▸ List.mem_singleton_self o
  exact ⟨report, o, h, hm, he, run_recordsConsistently (Prod.ext h rfl) o hm⟩

end Campaign

end Greenlight
