import Greenlight.Report
import Mathlib.Data.List.Basic

/-! # The life of a ledger

A ledger is called for outcomes and for its record, in any order and any number of times. Main statement:
it is written until its record is drawn up, once; from then on every call is refused and changes nothing. -/

namespace Greenlight

/-- With what a record is drawn up, apart from the outcomes. -/
structure Ledger.Terms where
  phase : Phase
  stoppedBy : Option String
  notRun : List String
  advisoryFatal : Bool
  interrupted : Bool

/-- What a ledger is called for. -/
inductive Ledger.Call where
  | append (o : Outcome)
  | finalize (now : Float) (terms : Terms)

namespace Ledger

/-- The outcome that a call adds. -/
def Call.outcome? : Call → Option Outcome
  | .append o => some o
  | .finalize .. => none

/-- Some calls only add outcomes. -/
def Call.AreAppends (calls : List Call) : Prop := ∀ now terms, Call.finalize now terms ∉ calls

/-- The answer to a call, with the record if one is drawn up, and the ledger after it. A call that is
refused leaves the ledger as it is. -/
def perform (l : Ledger) : Call → Except Fault (Option Report) × Ledger
  | .append o =>
    match l.append o with
    | .ok next => (.ok none, next)
    | .error fault => (.error fault, l)
  | .finalize now terms =>
    match l.finalize now terms.phase terms.stoppedBy terms.notRun terms.advisoryFatal
        terms.interrupted with
    | .ok (report, next) => (.ok (some report), next)
    | .error fault => (.error fault, l)

/-- The ledger after several calls. -/
def afterCalls (l : Ledger) (calls : List Call) : Ledger :=
  calls.foldl (fun l call => (l.perform call).2) l

variable {l : Ledger} {report : Report} {calls : List Call}

theorem Call.areAppends_cons_iff {call : Call} :
    Call.AreAppends (call :: calls) ↔ (∃ o, call = .append o) ∧ Call.AreAppends calls := by
  unfold Call.AreAppends
  cases call with
  | append o => simp
  | finalize now terms =>
    refine iff_of_false (fun h => h now terms List.mem_cons_self) ?_
    rintro ⟨⟨o, ho⟩, -⟩
    cases ho

/-! ## Before and after the record -/

/-- Once the record is drawn up, a call is refused and changes nothing. -/
theorem perform_of_report (h : l.report = some report) (call : Call) :
    l.perform call = (.error (.lifecycle .alreadyFinal), l) := by
  cases call with
  | append o => simp only [perform, append, h]
  | finalize now terms => simp only [perform, finalize, h]

theorem perform_append (h : l.report = none) (o : Outcome) :
    l.perform (.append o) = (.ok none, { l with outcomes := l.outcomes ++ [o] }) := by
  simp only [perform, append, h]

theorem perform_finalize (h : l.report = none) (now : Float) (terms : Terms) :
    ∃ report, report = Report.conclude terms.phase terms.stoppedBy terms.notRun terms.advisoryFatal
        terms.interrupted l.outcomes (now - l.started) ∧
      l.perform (.finalize now terms) = (.ok (some report), { l with report := some report }) := by
  refine ⟨_, rfl, ?_⟩
  simp only [perform, finalize, h]

/-- Before its record is drawn up, a ledger carries out every call. -/
theorem exists_perform_eq_ok (h : l.report = none) (call : Call) :
    ∃ answer next, l.perform call = (.ok answer, next) := by
  cases call with
  | append o => exact ⟨_, _, perform_append h o⟩
  | finalize now terms =>
    obtain ⟨report, -, hperform⟩ := perform_finalize h now terms
    exact ⟨_, _, hperform⟩

theorem afterCalls_of_report (h : l.report = some report) (calls : List Call) :
    l.afterCalls calls = l := by
  induction calls with
  | nil => rfl
  | cons call rest ih =>
    rw [afterCalls, List.foldl_cons, perform_of_report h]
    exact ih

/-- Outcomes are kept in the order of the calls. -/
theorem afterCalls_of_areAppends (h : l.report = none) (hcalls : Call.AreAppends calls) :
    l.afterCalls calls = { l with outcomes := l.outcomes ++ calls.filterMap Call.outcome? } := by
  induction calls generalizing l with
  | nil => simp [afterCalls]
  | cons call rest ih =>
    obtain ⟨⟨o, rfl⟩, hrest⟩ := Call.areAppends_cons_iff.1 hcalls
    let added := { l with outcomes := l.outcomes ++ [o] }
    calc l.afterCalls (.append o :: rest)
        = added.afterCalls rest := by
          rw [afterCalls, List.foldl_cons, perform_append h]
          rfl
      _ = { l with outcomes := l.outcomes ++ [o] ++ rest.filterMap Call.outcome? } :=
          ih (l := added) h hrest
      _ = { l with outcomes := l.outcomes ++ (Call.append o :: rest).filterMap Call.outcome? } := by
          simp [Call.outcome?]

/-- A record is there once some call asked for it. -/
theorem exists_report_afterCalls (l : Ledger) (h : ¬Call.AreAppends calls) :
    ∃ report, (l.afterCalls calls).report = some report := by
  induction calls generalizing l with
  | nil => exact absurd (fun _ _ => List.not_mem_nil) h
  | cons call rest ih =>
    cases hl : l.report with
    | some report =>
      rw [afterCalls_of_report hl]
      exact ⟨report, hl⟩
    | none =>
      cases call with
      | append o =>
        have hrest : ¬Call.AreAppends rest := fun hrest =>
          h (Call.areAppends_cons_iff.2 ⟨⟨o, rfl⟩, hrest⟩)
        exact ih (l.perform (.append o)).2 hrest
      | finalize now terms =>
        obtain ⟨report, -, hperform⟩ := perform_finalize hl now terms
        rw [afterCalls, List.foldl_cons, hperform]
        exact ⟨report, congrArg Ledger.report (afterCalls_of_report rfl rest)⟩

end Ledger

/-! ## The record -/

/-- What a record says that is drawn up from the outcomes that were written. -/
structure Report.DrawsUp (report : Report) (terms : Ledger.Terms) (written : List Outcome) : Prop
    where
  outcomes : report.outcomes = written
  phase : report.phase = terms.phase
  notRun : report.notRun = terms.notRun
  interrupted : report.interrupted = terms.interrupted
  /-- The failures that did not stop the campaign, in order. -/
  advisoryFailures : report.advisoryFailures =
    (written.filter fun o => o.succeeded = false ∧ o.effective = .advisory).map Outcome.taskId
  passed_iff : report.passed = true ↔
    terms.phase = .completed ∧ ¬(terms.advisoryFatal = true ∧ report.advisoryFailures ≠ [])
  /-- The failure that stopped the campaign comes before the advisory ones. -/
  firstFailure : report.firstFailure = terms.stoppedBy.or report.advisoryFailures.head?

theorem Report.conclude_drawsUp (terms : Ledger.Terms) (written : List Outcome) (seconds : Float) :
    (conclude terms.phase terms.stoppedBy terms.notRun terms.advisoryFatal terms.interrupted written
      seconds).DrawsUp terms written where
  outcomes := rfl
  phase := rfl
  notRun := rfl
  interrupted := rfl
  advisoryFailures := by
    refine congrArg (List.map Outcome.taskId) (List.filter_congr fun o _ => ?_)
    rw [Bool.eq_iff_iff]
    simp [Outcome.isAdvisoryFailure]
  passed_iff := by
    simp only [conclude, Bool.and_eq_true, beq_iff_eq, Bool.not_eq_true', Bool.and_eq_false_iff,
      Bool.not_eq_false', List.isEmpty_iff, ne_eq, not_and_or, not_not, Bool.not_eq_true]
    exact and_congr_right fun _ => or_comm
  firstFailure := Option.orElse_eq_or

/-- A ledger that is opened and called for some things, and then for one more. -/
structure Ledger.WritesOnce (started : Float) (calls : List Call) : Prop where
  /-- As long as no record is drawn up, every call is carried out. -/
  carriedOut : Call.AreAppends calls → ∀ call, ∃ answer next,
    ((opened started).afterCalls calls).perform call = (.ok answer, next)
  /-- The record that is drawn up first is kept. -/
  drawnUp : Call.AreAppends calls → ∀ now terms, ∃ report next,
    ((opened started).afterCalls calls).perform (.finalize now terms) = (.ok (some report), next) ∧
      next.report = some report ∧ report.seconds = now - started ∧
      report.DrawsUp terms (calls.filterMap Call.outcome?)
  /-- Behind it every call is refused, and the ledger stays as it is. -/
  refused : ¬Call.AreAppends calls → ∃ fault : Fault,
    fault.message = "Report is already finalized." ∧ ∀ call,
      ((opened started).afterCalls calls).perform call =
        (.error fault, (opened started).afterCalls calls)

/-- A ledger is written until its record is drawn up, and that is once. -/
theorem Ledger.writesOnce (started : Float) (calls : List Call) : WritesOnce started calls := by
  have hopened : (opened started).report = none := rfl
  constructor
  · intro hcalls call
    rw [afterCalls_of_areAppends hopened hcalls]
    exact exists_perform_eq_ok rfl call
  · intro hcalls now terms
    rw [afterCalls_of_areAppends hopened hcalls]
    obtain ⟨report, hreport, hperform⟩ := perform_finalize
      (l := { opened started with outcomes := [] ++ calls.filterMap Call.outcome? }) rfl now terms
    refine ⟨report, _, hperform, rfl, ?_, ?_⟩
    · rw [hreport]
      rfl
    · rw [hreport]
      exact Report.conclude_drawsUp ..
  · intro hcalls
    obtain ⟨report, hreport⟩ := exists_report_afterCalls (opened started) hcalls
    exact ⟨.lifecycle .alreadyFinal, rfl, perform_of_report hreport⟩

end Greenlight
