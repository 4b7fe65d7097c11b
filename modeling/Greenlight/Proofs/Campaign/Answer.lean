import Greenlight.Campaign

/-! # Outcomes read off answers

What an outcome says about a task is decided by the runner's answer, the severity of the task and the
policy. A command that was not started, timed out or was interrupted is never passed over. -/

namespace Greenlight

theorem Severity.eq_advisory_iff (severity : Severity) :
    severity = .advisory ↔ ¬severity = .blocking := by
  cases severity <;> simp

/-- The command ran to its own end with a status: it was started, and neither its time limit nor a stop
ended it. -/
def Answer.EndsWith : Answer → Int → Prop
  | .finished result, status =>
    result.timedOut = false ∧ result.interrupted = false ∧ result.exitStatus = status
  | .notStarted _, _ | .broke _, _ => False

/-- The runner ended the command for a stop, before its time was up. -/
def Answer.IsInterrupted : Answer → Prop
  | .finished result => result.timedOut = false ∧ result.interrupted = true
  | .notStarted _ | .broke _ => False

/-- Failures of the task are passed over. -/
def Policy.Tolerates (policy : Policy) (task : Task) : Prop :=
  task.severity = .advisory ∧ policy.strictAdvisory = false

namespace Outcome

/-! ## The weight of an outcome -/

/-- An outcome that does not block succeeded or is an advisory failure. -/
theorem blocks_eq_false_iff (o : Outcome) :
    o.blocks = false ↔ o.succeeded = true ∨ o.isAdvisoryFailure = true := by
  cases h : o.succeeded <;> simp [blocks, isAdvisoryFailure, h, Severity.eq_advisory_iff]

theorem isAdvisoryFailure_of_blocks {o : Outcome} (h : o.blocks = true) :
    o.isAdvisoryFailure = false := by
  simp only [blocks, Bool.and_eq_true, beq_iff_eq] at h
  simp [isAdvisoryFailure, h.2]

theorem succeeded_of_blocks {o : Outcome} (h : o.blocks = true) : o.succeeded = false := by
  simp only [blocks, Bool.and_eq_true, Bool.not_eq_true'] at h
  exact h.1

@[simp] theorem taskId_weigh (policy : Policy) (o : Outcome) :
    (Campaign.weigh policy o).taskId = o.taskId := by
  unfold Campaign.weigh
  split <;> rfl

@[simp] theorem succeeded_weigh (policy : Policy) (o : Outcome) :
    (Campaign.weigh policy o).succeeded = o.succeeded := by
  unfold Campaign.weigh
  split <;> rfl

@[simp] theorem failureKind_weigh (policy : Policy) (o : Outcome) :
    (Campaign.weigh policy o).failureKind = o.failureKind := by
  unfold Campaign.weigh
  split <;> rfl

theorem isAdvisoryFailure_escalate (o : Outcome) : o.escalate.isAdvisoryFailure = false := by
  simp [escalate, isAdvisoryFailure]

/-- Weighing leaves an advisory failure advisory unless the policy is strict. -/
theorem isAdvisoryFailure_weigh (policy : Policy) (o : Outcome) :
    (Campaign.weigh policy o).isAdvisoryFailure =
      (o.isAdvisoryFailure && !policy.strictAdvisory) := by
  unfold Campaign.weigh
  by_cases ha : o.isAdvisoryFailure = true
  · by_cases hs : policy.strictAdvisory = true
    · simp [ha, hs, isAdvisoryFailure_escalate]
    · simp [ha, hs]
  · simp [ha]

/-! ## From a result to its outcome -/

/-- The rules by which a result becomes an outcome; `base` is what all of them start from. -/
inductive Records (task : Task) (base : Outcome) (result : ProcessResult) : Outcome → Prop where
  | timedOut (error : String) (ht : result.timedOut = true) :
      Records task base result (base.failed .timeout .blocking "timeout" error)
  | interrupted (ht : result.timedOut = false) (hi : result.interrupted = true) :
      Records task base result
        (base.failed .interrupted .blocking "interrupted" "Interrupted by shutdown request")
  | succeeded (ht : result.timedOut = false) (hi : result.interrupted = false)
      (hz : result.exitStatus = 0) : Records task base result base
  | failed (reason error : String) (details : List (String × Json)) (ht : result.timedOut = false)
      (hi : result.interrupted = false) (hz : result.exitStatus ≠ 0) :
      Records task base result
        { base.failed .exitStatus task.severity reason error with details := some details }

theorem ofResult_records {task : Task} {request : Request} {previewBytes : Int}
    {result : ProcessResult} {seconds : Float} {o : Outcome}
    (h : ofResult task request previewBytes result seconds = .ok o) :
    Records task
      (ofSuccess task request
        { result with
          stdout := preview previewBytes result.stdout, stderr := preview previewBytes result.stderr }
        seconds) result o := by
  unfold ofResult at h
  dsimp only at h
  split at h
  · next ht =>
      split at h
      · cases h
      · cases h
        exact .timedOut _ ht
  · next ht =>
      rw [Bool.not_eq_true] at ht
      split at h
      · next hi =>
          cases h
          exact .interrupted ht hi
      · next hi =>
          rw [Bool.not_eq_true] at hi
          split at h
          · next hz =>
              cases h
              exact .succeeded ht hi hz
          · next hz =>
              cases h
              exact .failed _ _ _ ht hi hz

/-- A result fails to become an outcome only for a time limit that was never set. -/
theorem ofResult_eq_error {task : Task} {request : Request} {previewBytes : Int}
    {result : ProcessResult} {seconds : Float} {fault : Fault}
    (h : ofResult task request previewBytes result seconds = .error fault) : fault = .noLimit := by
  unfold ofResult at h
  dsimp only at h
  split at h
  · split at h
    · cases h
      rfl
    · cases h
  · split at h
    · cases h
    · split at h <;> cases h

/-! ## From an answer to its outcome -/

/-- The outcome of a task says what the runner answered, as the policy weighs it. -/
structure Reads (o : Outcome) (policy : Policy) (task : Task) (answer : Answer) : Prop where
  taskId : o.taskId = task.id
  succeeded_iff : o.succeeded = true ↔ answer.EndsWith 0
  advisory_iff : o.isAdvisoryFailure = true ↔
    ∃ status, status ≠ 0 ∧ answer.EndsWith status ∧ policy.Tolerates task
  /-- A command that was not started has an outcome of its own kind. -/
  startFailure : ∀ cause, answer = .notStarted cause →
    o = ofStartFailure task (Fault.notExecuted task.id cause).message
  interrupted_iff : o.failureKind = some .interrupted ↔ answer.IsInterrupted

theorem Reads.of_blocks {o : Outcome} {policy : Policy} {task : Task} {result : ProcessResult}
    (hid : o.taskId = task.id) (hb : o.blocks = true)
    (he : ∀ status, ¬(Answer.finished result).EndsWith status)
    (hi : o.failureKind = some .interrupted ↔ (Answer.finished result).IsInterrupted) :
    o.Reads policy task (.finished result) where
  taskId := hid
  succeeded_iff := by simp [succeeded_of_blocks hb, he]
  advisory_iff := by simp [isAdvisoryFailure_of_blocks hb, he]
  startFailure := by simp
  interrupted_iff := hi

/-- An outcome does not block exactly when the command ran to its own end and its status is zero or
passed over. -/
theorem Reads.blocks_eq_false_iff {o : Outcome} {policy : Policy} {task : Task} {answer : Answer}
    (h : o.Reads policy task answer) :
    o.blocks = false ↔
      ∃ status, answer.EndsWith status ∧ (status ≠ 0 → policy.Tolerates task) := by
  rw [Outcome.blocks_eq_false_iff, h.succeeded_iff, h.advisory_iff]
  constructor
  · rintro (hz | ⟨status, hs, he, ht⟩)
    · exact ⟨0, hz, fun hs => absurd rfl hs⟩
    · exact ⟨status, he, fun _ => ht⟩
  · rintro ⟨status, he, ht⟩
    by_cases hs : status = 0
    · exact .inl (hs ▸ he)
    · exact .inr ⟨status, hs, he, ht hs⟩

/-- A command that did not run blocks, whatever the policy. -/
theorem ofStartFailure_reads (policy : Policy) (task : Task) {message : String} {answer : Answer}
    (he : ∀ status, ¬answer.EndsWith status) (hi : ¬answer.IsInterrupted)
    (hm : ∀ cause, answer = .notStarted cause → message = (Fault.notExecuted task.id cause).message) :
    (ofStartFailure task message).Reads policy task answer where
  taskId := rfl
  succeeded_iff := iff_of_false Bool.false_ne_true (he 0)
  advisory_iff := iff_of_false Bool.false_ne_true fun ⟨status, _, hs, _⟩ => he status hs
  startFailure cause ha := congrArg (ofStartFailure task) (hm cause ha)
  interrupted_iff := iff_of_false (by simp [ofStartFailure]) hi

theorem ofResult_reads {task : Task} {request : Request} {previewBytes : Int}
    {result : ProcessResult} {seconds : Float} {o : Outcome} (policy : Policy)
    (h : ofResult task request previewBytes result seconds = .ok o) :
    (Campaign.weigh policy o).Reads policy task (.finished result) := by
  cases ofResult_records h with
  | timedOut error ht =>
    refine .of_blocks rfl rfl (by simp [Answer.EndsWith, ht]) ?_
    simp [Answer.IsInterrupted, Outcome.failed, ht]
  | interrupted ht hi =>
    refine .of_blocks rfl rfl (by simp [Answer.EndsWith, hi]) ?_
    simp [Answer.IsInterrupted, Outcome.failed, ht, hi]
  | succeeded ht hi hz =>
    refine ⟨by simp [ofSuccess], by simp [ofSuccess, Answer.EndsWith, *], ?_, by simp,
      by simp [ofSuccess, Answer.IsInterrupted, hi]⟩
    rw [isAdvisoryFailure_weigh]
    constructor
    · intro ha
      simp [isAdvisoryFailure, ofSuccess] at ha
    · rintro ⟨status, hs, he, -⟩
      exact absurd (he.2.2.symm.trans hz) hs
  | failed reason error details ht hi hz =>
    refine ⟨by simp [Outcome.failed, ofSuccess], by simp [Outcome.failed, Answer.EndsWith, hz], ?_,
      by simp, by simp [Outcome.failed, Answer.IsInterrupted, hi]⟩
    rw [isAdvisoryFailure_weigh]
    have hw : policy.Tolerates task ↔
        ∃ status, status ≠ 0 ∧ (Answer.finished result).EndsWith status ∧ policy.Tolerates task :=
      ⟨fun hp => ⟨_, hz, ⟨ht, hi, rfl⟩, hp⟩, fun ⟨_, _, _, hp⟩ => hp⟩
    rw [← hw]
    simp [isAdvisoryFailure, Outcome.failed, Policy.Tolerates]

end Outcome

namespace Campaign

theorem judge_eq_ok {setup : Setup} {task : Task} {request : Request} {seconds : Float}
    {answer : Answer} {o : Outcome} (policy : Policy)
    (h : judge setup task request seconds answer = .ok o) :
    (weigh policy o).Reads policy task answer := by
  cases answer with
  | notStarted cause => cases h
  | broke fault => cases h
  | finished result => exact Outcome.ofResult_reads policy h

/-- The outcome of a task that could not be executed. -/
theorem judge_eq_notExecuted {setup : Setup} {task : Task} {request : Request} {seconds : Float}
    {answer : Answer} {id cause : String} (policy : Policy)
    (h : judge setup task request seconds answer = .error (.notExecuted id cause)) :
    (Outcome.ofStartFailure task (Fault.notExecuted id cause).message).Reads policy task answer := by
  cases answer with
  | notStarted cause =>
    cases h
    refine Outcome.ofStartFailure_reads policy task (fun _ => not_false) not_false fun _ ha => ?_
    cases ha
    rfl
  | broke fault =>
    refine Outcome.ofStartFailure_reads policy task (fun _ => not_false) not_false fun _ ha => ?_
    cases ha
  | finished result => cases Outcome.ofResult_eq_error h

end Campaign

end Greenlight
