import Greenlight.Report.Export
import Greenlight.Proofs.Decimal.Faithful
import Greenlight.Proofs.Failing
import Greenlight.Proofs.FileTree.Contents
import Greenlight.Proofs.Json.Ascii
import Greenlight.Proofs.Json.RoundTrip
import Greenlight.Proofs.Text.Encoded

/-! # What an exported report keeps

Main statement: the file of a report is ASCII, reading it gives back what was exported, and reports with
the same file agree in all that is exported. -/

namespace Greenlight

/-! ## Names -/

theorem Phase.name_inj {p q : Phase} : p.name = q.name ↔ p = q := by
  cases p <;> cases q <;> decide

theorem Severity.name_inj {s t : Severity} : s.name = t.name ↔ s = t := by
  cases s <;> cases t <;> decide

theorem FailureKind.name_inj {k l : FailureKind} : k.name = l.name ↔ k = l := by
  cases k <;> cases l <;> decide

theorem Report.ExitCode.number_inj {c d : Report.ExitCode} : c.number = d.number ↔ c = d := by
  cases c <;> cases d <;> decide

/-! ## What is exported -/

/-- The double that a real number stands for. -/
def Json.double? : Json → Option Float
  | .real d => some d.toFloat
  | _ => none

/-- The decimals in the details of an outcome are canonical. -/
def Outcome.HasPlainDetails (o : Outcome) : Prop :=
  ∀ entries ∈ o.details, Json.IsPlain (.object entries)

/-- Two outcomes agree in all that is exported of them. -/
structure Outcome.ExportsLike (o other : Outcome) : Prop where
  taskId : o.taskId = other.taskId
  declared : o.declared = other.declared
  effective : o.effective = other.effective
  succeeded : o.succeeded = other.succeeded
  exitStatus : o.exitStatus = other.exitStatus
  seconds : roundFloat o.seconds 3 = roundFloat other.seconds 3
  failureKind : o.failureKind = other.failureKind
  reason : o.reason = other.reason
  error : o.error = other.error
  stdoutPath : o.stdoutPath.map Path.text = other.stdoutPath.map Path.text
  stderrPath : o.stderrPath.map Path.text = other.stderrPath.map Path.text
  /-- Empty details are exported like none. -/
  details : o.details.getD [] = other.details.getD []

namespace Report

/-- The decimals in the details of a report are canonical. -/
def HasPlainDetails (r : Report) : Prop := ∀ o ∈ r.outcomes, o.HasPlainDetails

/-- Two reports agree in all that is exported of them. -/
structure ExportsLike (r other : Report) : Prop where
  phase : r.phase = other.phase
  passed : r.passed = other.passed
  exitCode : r.exitCode = other.exitCode
  firstFailure : r.firstFailure = other.firstFailure
  notRun : r.notRun = other.notRun
  advisoryFailures : r.advisoryFailures = other.advisoryFailures
  interrupted : r.interrupted = other.interrupted
  seconds : roundFloat r.seconds 3 = roundFloat other.seconds 3
  outcomes : List.Forall₂ Outcome.ExportsLike r.outcomes other.outcomes

/-! ## Exported values are plain -/

theorem isPlain_ofText? (text : Option String) : Json.IsPlain (Json.ofText? text) := by
  cases text with
  | none => exact .null
  | some s => exact .text s

theorem isPlain_ofTexts (texts : List String) : Json.IsPlain (Json.ofTexts texts) :=
  .list fun item hm => by
    obtain ⟨s, -, rfl⟩ := List.mem_map.1 hm
    exact .text s

theorem isPlain_secondsJson (seconds : Float) : Json.IsPlain (secondsJson seconds) :=
  .real (Decimal.ofFloat_standsFor _).isCanonical

theorem isPlain_detailsJson {details : Option (List (String × Json))}
    (h : ∀ entries ∈ details, Json.IsPlain (.object entries)) : Json.IsPlain (detailsJson details) := by
  unfold detailsJson
  split
  · exact .null
  · exact .null
  · exact h _ rfl

theorem isPlain_outcomeJson {o : Outcome} (h : o.HasPlainDetails) : Json.IsPlain (outcomeJson o) := by
  refine .object ?_
  simp only [List.forall_mem_cons]
  refine ⟨.text _, .text _, .text _, .bool _, ?_, isPlain_secondsJson _, isPlain_ofText? _,
    isPlain_ofText? _, isPlain_ofText? _, isPlain_ofText? _, isPlain_ofText? _, isPlain_detailsJson h,
    nofun⟩
  cases o.exitStatus with
  | none => exact .null
  | some status => exact .int status

theorem isPlain_toJson {r : Report} (h : r.HasPlainDetails) : Json.IsPlain r.toJson := by
  refine .object ?_
  simp only [List.forall_mem_cons]
  refine ⟨.text _, .bool _, isPlain_ofText? _, isPlain_ofTexts _, isPlain_ofTexts _, .bool _,
    isPlain_secondsJson _, .int _, .list ?_, nofun⟩
  intro item hm
  obtain ⟨o, ho, rfl⟩ := List.mem_map.1 hm
  exact isPlain_outcomeJson (h o ho)

/-! ## What exported values tell -/

theorem ofText?_inj {text other : Option String} : Json.ofText? text = Json.ofText? other ↔ text = other := by
  cases text <;> cases other <;> simp [Json.ofText?]

theorem ofTexts_inj {texts others : List String} :
    Json.ofTexts texts = Json.ofTexts others ↔ texts = others := by
  rw [Json.ofTexts, Json.ofTexts, Json.list.injEq, List.map_inj_right]
  exact fun _ _ => Json.text.inj

theorem double?_secondsJson (seconds : Float) :
    (secondsJson seconds).double? = some (roundFloat seconds 3) :=
  congrArg some (Decimal.toFloat_ofFloat _)

theorem secondsJson_inj {x y : Float} : secondsJson x = secondsJson y ↔ roundFloat x 3 = roundFloat y 3 := by
  simp [secondsJson, Decimal.ofFloat_injective.eq_iff]

theorem exitStatusJson_inj {status other : Option Int} :
    (status.map Json.int).getD .null = (other.map Json.int).getD .null ↔ status = other := by
  cases status <;> cases other <;> simp

theorem detailsJson_inj {details others : Option (List (String × Json))} :
    detailsJson details = detailsJson others ↔ details.getD [] = others.getD [] := by
  rcases details with _ | _ | ⟨entry, rest⟩ <;> rcases others with _ | _ | ⟨entry', rest'⟩ <;>
    simp [detailsJson]

theorem outcomeJson_inj {o other : Outcome} :
    outcomeJson o = outcomeJson other ↔ o.ExportsLike other := by
  simp only [outcomeJson, Json.object.injEq, List.cons.injEq, Prod.mk.injEq, Json.text.injEq,
    Json.bool.injEq, true_and, and_true, ofText?_inj, secondsJson_inj, exitStatusJson_inj,
    detailsJson_inj, pathJson, Severity.name_inj,
    (Option.map_injective fun _ _ => FailureKind.name_inj.1).eq_iff]
  constructor
  · rintro ⟨htask, hdeclared, heffective, hsucceeded, hstatus, hseconds, hkind, hreason, herror, hstdout,
      hstderr, hdetails⟩
    exact ⟨htask, hdeclared, heffective, hsucceeded, hstatus, hseconds, hkind, hreason, herror, hstdout,
      hstderr, hdetails⟩
  · intro h
    exact ⟨h.taskId, h.declared, h.effective, h.succeeded, h.exitStatus, h.seconds, h.failureKind,
      h.reason, h.error, h.stdoutPath, h.stderrPath, h.details⟩

theorem map_outcomeJson_inj {outcomes others : List Outcome} :
    outcomes.map outcomeJson = others.map outcomeJson ↔
      List.Forall₂ Outcome.ExportsLike outcomes others := by
  rw [← List.forall₂_eq_eq_eq, List.forall₂_map_left_iff, List.forall₂_map_right_iff]
  simp only [outcomeJson_inj]

theorem toJson_inj {r other : Report} : r.toJson = other.toJson ↔ r.ExportsLike other := by
  simp only [toJson, Json.object.injEq, List.cons.injEq, Prod.mk.injEq, Json.text.injEq,
    Json.bool.injEq, Json.int.injEq, Json.list.injEq, true_and, and_true, ofText?_inj, ofTexts_inj,
    secondsJson_inj, Phase.name_inj, Int.natCast_inj, ExitCode.number_inj, map_outcomeJson_inj]
  constructor
  · rintro ⟨hphase, hpassed, hfirst, hnotRun, hadvisory, hinterrupted, hseconds, hcode, houtcomes⟩
    exact ⟨hphase, hpassed, hcode, hfirst, hnotRun, hadvisory, hinterrupted, hseconds, houtcomes⟩
  · intro h
    exact ⟨h.phase, h.passed, h.firstFailure, h.notRun, h.advisoryFailures, h.interrupted, h.seconds,
      h.exitCode, h.outcomes⟩

/-! ## The file of a report -/

theorem exists_exported (r : Report) :
    ∃ body, r.exported = body ++ "\n" ∧ body.toList.getLast? = some '\x7d' := by
  refine ⟨r.toJson.write, rfl, ?_⟩
  rw [Json.write, String.toList_ofList, toJson, Json.valueChars]
  exact List.getLast?_concat

theorem isAscii_exported (r : Report) : Json.IsAscii r.exported.toList := by
  rw [exported, String.toList_append, Json.isAscii_append]
  exact ⟨Json.isAscii_write _, by decide⟩

theorem read?_exported {r : Report} (h : r.HasPlainDetails) : Json.read? r.exported = some r.toJson :=
  Json.read?_write (isPlain_toJson h) (by simp [Json.Ends]) (by decide)

theorem writeTo_eq_ok_iff {r : Report} {path : Path} {t next : FileTree} :
    r.writeTo path t = .ok next ↔ FileTree.isNameable path.text = true ∧
      ∃ made, t.makeFolders path.parent = .ok made ∧
        made.write path.text (Text.encode r.exported) = .ok next := by
  unfold writeTo
  split
  · next hn => simp_all
  · next hn =>
    rw [mapError_eq_ok_iff, bind_eq_ok_iff, and_iff_right]
    simpa using hn

/-- A report can be stored where a file can be. -/
theorem exists_writeTo_iff {r : Report} {path : Path} {t : FileTree} :
    (∃ next, r.writeTo path t = .ok next) ↔ FileTree.isNameable path.text = true ∧
      ∃ made, t.makeFolders path.parent = .ok made ∧ made.takesFile path.text = true := by
  simp only [writeTo_eq_ok_iff, ← FileTree.exists_write_iff (Text.encode r.exported)]
  constructor
  · rintro ⟨next, hn, made, hmade, hwrite⟩
    exact ⟨hn, made, hmade, next, hwrite⟩
  · rintro ⟨hn, made, hmade, next, hwrite⟩
    exact ⟨next, hn, made, hmade, hwrite⟩

theorem content_of_writeTo {r : Report} {path : Path} {t next : FileTree}
    (h : r.writeTo path t = .ok next) : next.content path.text = .ok (Text.encode r.exported) := by
  obtain ⟨-, made, -, hwrite⟩ := writeTo_eq_ok_iff.1 h
  exact FileTree.content_of_write hwrite

/-- What the export of a report keeps. -/
structure ExportsLosslessly (r : Report) : Prop where
  ascii : Json.IsAscii r.exported.toList
  /-- The file ends with one line feed. -/
  ends : ∃ body, r.exported = body ++ "\n" ∧ body.toList.getLast? = some '\x7d'
  readsBack : Json.read? r.exported = some r.toJson
  /-- The outcomes stand in their order. -/
  outcomes : r.toJson.field? "outcomes" = some (.list (r.outcomes.map outcomeJson))
  /-- The doubles of the durations, rounded to milliseconds, are read back. -/
  seconds : r.toJson.field? "duration_seconds" >>= Json.double? = some (roundFloat r.seconds 3)
  outcomeSeconds : ∀ o ∈ r.outcomes,
    (outcomeJson o).field? "duration_seconds" >>= Json.double? = some (roundFloat o.seconds 3)
  /-- The file is stored wherever the folders above it can be made and a file can be written. -/
  stored : ∀ path t, (FileTree.isNameable path.text = true ∧
      ∃ made, t.makeFolders path.parent = .ok made ∧ made.takesFile path.text = true) →
    ∃ next, r.writeTo path t = .ok next ∧ next.content path.text = .ok (Text.encode r.exported)
  /-- Nothing is stored anywhere else. -/
  notStored : ∀ path t next, r.writeTo path t = .ok next → FileTree.isNameable path.text = true ∧
    ∃ made, t.makeFolders path.parent = .ok made ∧ made.takesFile path.text = true
  /-- Reports with the same file agree in all that is exported, and such reports have the same file. -/
  determined : ∀ other : Report, other.HasPlainDetails →
    (Text.encode other.exported = Text.encode r.exported ↔ r.ExportsLike other)

/-- The file of a report loses nothing of what it names. -/
theorem exportsLosslessly {r : Report} (h : r.HasPlainDetails) : r.ExportsLosslessly where
  ascii := isAscii_exported r
  ends := exists_exported r
  readsBack := read?_exported h
  outcomes := rfl
  seconds := double?_secondsJson r.seconds
  outcomeSeconds o _ := double?_secondsJson o.seconds
  stored path t ht := by
    obtain ⟨next, hnext⟩ := exists_writeTo_iff.2 ht
    exact ⟨next, hnext, content_of_writeTo hnext⟩
  notStored path t next h := exists_writeTo_iff.1 ⟨next, h⟩
  determined other ho := by
    rw [Text.encode_inj, ← toJson_inj]
    constructor
    · intro hfile
      have hread := read?_exported h
      rw [← hfile, read?_exported ho] at hread
      exact (Option.some.inj hread).symm
    · intro hjson
      rw [exported, exported, hjson]

/-- A report whose texts hold quotes, control characters and characters beyond the first plane, stored in a
folder that is made for it. -/
theorem exportsLosslessly_escaped :
    let failed : Outcome :=
      { taskId := "tests:é+😀", declared := .advisory, effective := .blocking, exitStatus := some (-9)
        succeeded := false, stdout := [], stderr := [], seconds := 0.1, failureKind := some .exitStatus
        reason := some "test_failed", error := some "\"a\\b\"\x07\x7f\n"
        stdoutPath := some ⟨.root, ["log ü"]⟩, stderrPath := none
        details := some [("rule", .text "\t"), ("pattern", .null), ("version", .int 1)] }
    let report : Report :=
      { outcomes := [failed], phase := .aborted, passed := false, firstFailure := some failed.taskId
        notRun := ["docs"], advisoryFailures := [], interrupted := false, seconds := 2.5 }
    let path := Path.ofText "reports/gate.json"
    report.HasPlainDetails ∧ report.ExportsLosslessly ∧
      ∃ next, report.writeTo path .empty = .ok next ∧
        next.content path.text = .ok (Text.encode report.exported) := by
  intro failed report path
  have hplain : report.HasPlainDetails := by
    simp only [HasPlainDetails, Outcome.HasPlainDetails, report, failed, List.forall_mem_singleton,
      Option.mem_some_iff, forall_eq']
    refine .object ?_
    simp only [List.forall_mem_cons]
    exact ⟨.text _, .null, .int 1, nofun⟩
  have hplace : ∃ made, FileTree.empty.makeFolders path.parent = .ok made ∧
      made.takesFile path.text = true := exists_ok_of_toOption (by decide +kernel)
  have hexports := exportsLosslessly hplain
  exact ⟨hplain, hexports, hexports.stored path .empty ⟨by decide +kernel, hplace⟩⟩

end Report

end Greenlight
