import Greenlight.Proofs.Campaign.ExitCodes

/-! # The lines of a printed report

Main statement: the lines that begin with two spaces and a bracket are those of the outcomes, one for each
and in their order, whatever the outputs and messages hold. Without outputs the report is printed as if no
outcome had any, so that only their ends are left out. -/

namespace Greenlight.Report

/-! ## What a line begins with -/

/-- A line begins with a text. -/
def Begins (start line : String) : Prop := start.toList <+: line.toList

/-- Lines that begin with two spaces and a bracket. -/
def isOutcomeLine (line : String) : Bool := "  [".toList.isPrefixOf line.toList

/-- The start of the line of an outcome, with what it shows as the severity. -/
def lineStart (o : Outcome) (severity : String) : String :=
  "  [" ++ (if o.succeeded then "PASS" else "FAIL") ++ "] " ++ o.taskId ++ " (" ++ severity ++ ") "

/-- A line tells whether the outcome succeeded, and shows the severity that a failure was raised to. -/
structure ShowsOutcome (o : Outcome) (line : String) : Prop where
  passes_iff : Begins "  [PASS] " line ↔ o.succeeded = true
  fails_iff : Begins "  [FAIL] " line ↔ o.succeeded = false
  raised_iff : Begins (lineStart o (o.declared.name ++ "->" ++ o.effective.name)) line ↔
    o.declared ≠ o.effective
  kept_iff : Begins (lineStart o o.declared.name) line ↔ o.declared = o.effective

/-! ## The line of an outcome -/

theorem exists_outcomeLine (o : Outcome) :
    ∃ rest, "  " ++ outcomeLine o = lineStart o (severityText o) ++ rest := by
  unfold outcomeLine lineStart
  dsimp only
  split
  · refine ⟨fixedText 1 o.seconds ++ "s", ?_⟩
    rw [← String.toList_inj]
    simp [toString]
  · refine ⟨fixedText 1 o.seconds ++ "s exit=" ++ (o.exitStatus.map toString).getD "-" ++
      " reason=" ++ optionText o.reason, ?_⟩
    rw [← String.toList_inj]
    simp [toString]

theorem begins_lineStart_iff (o : Outcome) (shown severity rest : String) :
    Begins (lineStart o shown) (lineStart o severity ++ rest) ↔
      Begins (shown ++ ") ") (severity ++ ") " ++ rest) := by
  simp only [Begins, lineStart, String.toList_append, List.append_assoc, List.prefix_append_right_inj]

theorem outcomeLine_showsOutcome (o : Outcome) : ShowsOutcome o ("  " ++ outcomeLine o) := by
  obtain ⟨rest, hline⟩ := exists_outcomeLine o
  rw [hline]
  constructor
  · cases hs : o.succeeded <;> simp [Begins, lineStart, hs]
  · cases hs : o.succeeded <;> simp [Begins, lineStart, hs]
  · rw [begins_lineStart_iff]
    by_cases he : o.declared = o.effective <;>
      simp [Begins, severityText, Outcome.isEscalated, he, toString]
  · rw [begins_lineStart_iff]
    by_cases he : o.declared = o.effective <;>
      simp [Begins, severityText, Outcome.isEscalated, he, toString]

/-! ## Which lines are those of outcomes -/

theorem isOutcomeLine_outcomeLine (o : Outcome) : isOutcomeLine ("  " ++ outcomeLine o) = true := by
  obtain ⟨rest, hline⟩ := exists_outcomeLine o
  rw [hline]
  simp [isOutcomeLine, lineStart]

theorem isOutcomeLine_of_indented {line : String} (h : Begins "      " line) :
    isOutcomeLine line = false := by
  obtain ⟨rest, hrest⟩ := h
  rw [isOutcomeLine, ← hrest]
  rfl

theorem begins_outputTail (label : String) (bytes : List UInt8) :
    ∀ line ∈ outputTail label bytes, Begins "      " line := by
  intro line hm
  unfold outputTail at hm
  dsimp only at hm
  split at hm
  · cases hm
  · rcases List.mem_cons.1 hm with rfl | hm
    · simp [Begins, toString]
    · obtain ⟨text, -, rfl⟩ := List.mem_map.1 hm
      simp [Begins]

theorem begins_failureLines (showOutput : Bool) (o : Outcome) :
    ∀ line ∈ failureLines showOutput o, Begins "      " line := by
  intro line hm
  unfold failureLines at hm
  split at hm
  · cases hm
  · simp only [List.mem_append] at hm
    rcases hm with (hm | hm) | hm
    · unfold errorLines at hm
      split at hm
      · split at hm
        · cases hm
        · rw [List.mem_singleton.1 hm]
          simp [Begins, toString]
      · cases hm
    · unfold logLines at hm
      split at hm
      · rw [List.mem_singleton.1 hm]
        simp [Begins, toString]
      · cases hm
    · split at hm
      · rcases List.mem_append.1 hm with hm | hm
        · exact begins_outputTail _ _ line hm
        · exact begins_outputTail _ _ line hm
      · cases hm

theorem isOutcomeLine_of_head {line : String} {c : Char} (h : line.toList.head? = some c)
    (hc : c ≠ ' ') : isOutcomeLine line = false := by
  obtain ⟨rest, hrest⟩ := List.head?_eq_some_iff.1 h
  rw [isOutcomeLine, hrest]
  exact Bool.and_eq_false_iff.2 (.inl (beq_false_of_ne hc.symm))

theorem isOutcomeLine_summaryLines (r : Report) :
    ∀ line ∈ r.summaryLines, isOutcomeLine line = false := by
  intro line hm
  unfold summaryLines verdictLine at hm
  simp only [List.mem_append, List.mem_singleton] at hm
  -- each of the lines begins with a letter
  rcases hm with ((((hm | hm) | hm) | rfl) | hm) | rfl
  · split at hm
    · cases hm
    · rw [List.mem_singleton.1 hm]
      exact isOutcomeLine_of_head (c := 'N') (by simp [toString]) (by decide)
  · split at hm
    · cases hm
    · rw [List.mem_singleton.1 hm]
      exact isOutcomeLine_of_head (c := 'A') (by simp) (by decide)
  · split at hm
    · rw [List.mem_singleton.1 hm]
      rfl
    · cases hm
  · exact isOutcomeLine_of_head (c := 'P') (by simp [toString]) (by decide)
  · split at hm
    · rw [List.mem_singleton.1 hm]
      exact isOutcomeLine_of_head (c := 'F') (by simp [toString]) (by decide)
    · cases hm
  · exact isOutcomeLine_of_head (c := 'R') (by simp) (by decide)

theorem filter_outcomeLines (showOutput : Bool) (o : Outcome) :
    (outcomeLines showOutput o).filter isOutcomeLine = ["  " ++ outcomeLine o] := by
  have hfailure : (failureLines showOutput o).filter isOutcomeLine = [] :=
    List.filter_eq_nil_iff.2 fun line hm => by
      rw [isOutcomeLine_of_indented (begins_failureLines showOutput o line hm)]
      exact Bool.false_ne_true
  rw [outcomeLines, List.filter_cons_of_pos (isOutcomeLine_outcomeLine o), hfailure]

theorem filter_lines (r : Report) (showOutput : Bool) :
    (r.lines showOutput).filter isOutcomeLine = r.outcomes.map fun o => "  " ++ outcomeLine o := by
  have hsummary : r.summaryLines.filter isOutcomeLine = [] :=
    List.filter_eq_nil_iff.2 fun line hm => by
      rw [isOutcomeLine_summaryLines r line hm]
      exact Bool.false_ne_true
  have houtcomes : (r.outcomes.flatMap (outcomeLines showOutput)).filter isOutcomeLine =
      r.outcomes.map fun o => "  " ++ outcomeLine o := by
    simp only [List.filter_flatMap, filter_outcomeLines]
    exact List.map_eq_flatMap.symm
  rw [lines, List.cons_append, List.filter_cons_of_neg (by decide), List.filter_append, houtcomes,
    hsummary, List.append_nil]

/-! ## Without outputs -/

/-- Of some lines others are left, and those that are left out have a property. -/
inductive LeavesOut (property : String → Prop) : List String → List String → Prop where
  | nil : LeavesOut property [] []
  | keep (line : String) {all some : List String} (h : LeavesOut property all some) :
      LeavesOut property (line :: all) (line :: some)
  | drop {line : String} {all some : List String} (hl : property line)
      (h : LeavesOut property all some) : LeavesOut property (line :: all) some

namespace LeavesOut

variable {property : String → Prop} {all some more others : List String}

theorem refl (all : List String) : LeavesOut property all all := by
  induction all with
  | nil => exact .nil
  | cons line rest ih => exact ih.keep line

theorem append (h : LeavesOut property all some) (ho : LeavesOut property more others) :
    LeavesOut property (all ++ more) (some ++ others) := by
  induction h with
  | nil => exact ho
  | keep line _ ih => exact ih.keep line
  | drop hl _ ih => exact ih.drop hl

theorem nil_right (h : ∀ line ∈ all, property line) : LeavesOut property all [] := by
  induction all with
  | nil => exact .nil
  | cons line rest ih =>
    obtain ⟨hline, hrest⟩ := List.forall_mem_cons.1 h
    exact (ih hrest).drop hline

theorem sublist (h : LeavesOut property all some) : some.Sublist all := by
  induction h with
  | nil => exact .slnil
  | keep line _ ih => exact ih.cons_cons line
  | drop _ _ ih => exact ih.cons _

end LeavesOut

/-- The lines that show the end of an output of a failed outcome. -/
def IsTailLine (r : Report) (line : String) : Prop :=
  ∃ o ∈ r.outcomes, o.succeeded = false ∧
    (line ∈ outputTail "stdout" o.stdout ∨ line ∈ outputTail "stderr" o.stderr)

/-- The same report without the outputs of its outcomes. -/
def withoutOutputs (r : Report) : Report :=
  { r with outcomes := r.outcomes.map fun o => { o with stdout := [], stderr := [] } }

theorem failureLines_leavesOut {r : Report} {o : Outcome} (hm : o ∈ r.outcomes) :
    LeavesOut r.IsTailLine (failureLines true o) (failureLines false o) := by
  unfold failureLines
  split
  · exact .nil
  · next hs =>
      refine .append (.refl _) (.nil_right fun line hline => ?_)
      exact ⟨o, hm, Bool.not_eq_true _ ▸ hs, List.mem_append.1 hline⟩

theorem flatMap_leavesOut {r : Report} {outcomes : List Outcome}
    (h : ∀ o ∈ outcomes, o ∈ r.outcomes) :
    LeavesOut r.IsTailLine (outcomes.flatMap (outcomeLines true))
      (outcomes.flatMap (outcomeLines false)) := by
  induction outcomes with
  | nil => exact .nil
  | cons o rest ih =>
    obtain ⟨ho, hrest⟩ := List.forall_mem_cons.1 h
    exact .append ((failureLines_leavesOut ho).keep _) (ih hrest)

theorem lines_leavesOut (r : Report) :
    LeavesOut r.IsTailLine (r.lines true) (r.lines false) :=
  ((flatMap_leavesOut fun _ hm => hm).append (.refl r.summaryLines)).keep _

theorem outputTail_nil (label : String) : outputTail label [] = [] := by
  simp [outputTail, Text.decodeLossy, Text.utf8Pieces, Text.stripEndChars]

/-- Without outputs an outcome is shown as one whose outputs are empty. -/
theorem lines_withoutOutputs (r : Report) : r.withoutOutputs.lines true = r.lines false := by
  have houtcomeLines (o : Outcome) :
      outcomeLines true { o with stdout := [], stderr := [] } = outcomeLines false o := by
    unfold outcomeLines failureLines
    simp only [outputTail_nil, List.append_nil, if_true, Bool.false_eq_true, if_false]
    congr 1
  have houtcomes : r.withoutOutputs.outcomes.flatMap (outcomeLines true) =
      r.outcomes.flatMap (outcomeLines false) := by
    simp only [withoutOutputs, List.flatMap_map, houtcomeLines]
  have hsummary : r.withoutOutputs.summaryLines = r.summaryLines := by
    have hlength : r.withoutOutputs.outcomes.length = r.outcomes.length := List.length_map ..
    unfold summaryLines
    rw [hlength]
    rfl
  rw [lines, lines, houtcomes, hsummary]

/-- What a printed report lists. -/
structure ListsOutcomes (r : Report) : Prop where
  /-- With or without outputs, one line for each outcome and in their order. -/
  outcomes : ∀ showOutput,
    List.Forall₂ ShowsOutcome r.outcomes ((r.lines showOutput).filter isOutcomeLine)
  subsequence : (r.lines false).Sublist (r.lines true)
  /-- Without outputs, only lines of the ends of outputs are left out. -/
  leftOut : LeavesOut r.IsTailLine (r.lines true) (r.lines false)
  /-- Nothing else depends on the outputs being shown. -/
  withoutOutputs : r.lines false = r.withoutOutputs.lines true
  verdict : ∀ showOutput, (r.lines showOutput).getLast? =
    some ("Release check status: " ++ if r.passed then "passed" else "failed")

/-- The lines of outcomes can be told from all other lines, and only ends of outputs are left out. -/
theorem listsOutcomes (r : Report) : r.ListsOutcomes where
  outcomes showOutput := by
    rw [filter_lines, List.forall₂_map_right_iff, List.forall₂_same]
    exact fun o _ => outcomeLine_showsOutcome o
  subsequence := r.lines_leavesOut.sublist
  leftOut := r.lines_leavesOut
  withoutOutputs := r.lines_withoutOutputs.symm
  verdict := r.getLast?_lines

end Greenlight.Report
