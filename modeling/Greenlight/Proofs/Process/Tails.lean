import Greenlight.Process.Runner
import Mathlib.Data.List.Infix

/-! # The ends of outputs

An output is cut twice: the runner reads the end of a log file, and the end of what the runner answers is
shown. Main statements: with a limit above zero both keep as many of the last bytes as the limit allows, so
that what was cut once is not cut again. -/

namespace Greenlight

/-- The end of an output: as many of its last bytes as a limit allows. -/
structure IsTail (limit : Int) (kept bytes : List UInt8) : Prop where
  suffix : kept <:+ bytes
  length : (kept.length : Int) = min limit bytes.length

variable {limit : Int} {kept bytes : List UInt8}

theorem IsTail.length_le (h : IsTail limit kept bytes) : (kept.length : Int) ≤ limit := by
  rw [h.length]
  exact Int.min_le_left _ _

/-- The end of the end of an output is that of the output. -/
theorem IsTail.trans {part : List UInt8} (h : IsTail limit kept part)
    (hp : IsTail limit part bytes) : IsTail limit kept bytes where
  suffix := h.suffix.trans hp.suffix
  length := by rw [h.length, hp.length, ← Int.min_assoc, Int.min_self]

theorem tail_isTail (h : 0 ≤ limit) (bytes : List UInt8) :
    IsTail limit (tail limit.toNat bytes) bytes where
  suffix := List.drop_suffix _ bytes
  length := by
    rw [tail, List.length_drop]
    omega

theorem preview_isTail (h : 0 < limit) (bytes : List UInt8) :
    IsTail limit (preview limit bytes) bytes := by
  unfold preview
  split
  · next hshort => exact ⟨List.suffix_rfl, (Int.min_eq_right hshort).symm⟩
  · have hle : 0 ≤ limit := Int.le_of_lt h
    rw [if_neg (Int.not_lt.2 hle), if_neg (Int.ne_of_gt h)]
    exact tail_isTail hle bytes

/-- What the limit allows is shown as it is. -/
theorem preview_of_length_le (h : (bytes.length : Int) ≤ limit) : preview limit bytes = bytes :=
  if_pos h

/-- At zero the two cuts part: the one leaves nothing, and the other everything. -/
example : tail 0 [104, 105] = [] ∧ preview 0 [104, 105] = [104, 105] := by decide

namespace Runner

/-- What is read of a log file is its end. -/
theorem readLog_isTail {t : FileTree} {path : Path} (h : 0 ≤ limit)
    (hr : t.read path.text = .ok bytes) : IsTail limit (readLog t path (some limit)) bytes := by
  unfold readLog
  rw [hr]
  exact tail_isTail h bytes

/-- No more is read than the limit allows, also of a file that is not there. -/
theorem length_readLog_le (h : 0 ≤ limit) (t : FileTree) (path : Path) :
    ((readLog t path (some limit)).length : Int) ≤ limit := by
  cases hr : t.read path.text with
  | ok bytes => exact (readLog_isTail h hr).length_le
  | error e =>
    unfold readLog
    rw [hr]
    exact h

/-- The outputs of a command that finished are the ends of its log files, as they are then. -/
theorem outputs_of_run {launcher : Launcher} {t next : FileTree} {request : Request}
    {result : ProcessResult} (h : run launcher t request = (.finished result, next)) :
    result.stdout = readLog next request.stdoutPath request.limit ∧
      result.stderr = readLog next request.stderrPath request.limit := by
  have hlog (fault : Fault) : logAnswer request fault ≠ .finished result := by
    cases fault <;> exact nofun
  unfold run at h
  split at h
  · cases h
  · split at h
    · cases h
    · split at h
      · exact absurd (congrArg Prod.fst h) (hlog _)
      · split at h
        · exact absurd (congrArg Prod.fst h) (hlog _)
        · unfold launch at h
          split at h
          · cases h
          · cases h
          · cases h
          · next ending _ _ =>
            cases h
            cases ending <;> exact ⟨rfl, rfl⟩

end Runner

end Greenlight
