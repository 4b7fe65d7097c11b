import Greenlight.Proofs.Gate.Reported

/-! # Faults of the settings

Values that the readers of options refuse are reported. Some values of other kinds are not refused but
break the readers off. -/

namespace Greenlight.Settings

/-! ## Readers that refuse -/

/-- A mapping of time limits with a whole number beyond all doubles. -/
def HasHugeLimit (v : Value) : Prop :=
  ∃ entries key raw, v.content = .map entries ∧ (key, raw) ∈ entries ∧
    raw.toFloat = .error .beyondFloat

/-- An option whose value its reader does not refuse but stumbles over, with the fault that comes of
it. -/
inductive Misfit (origin : Origin) (root : Option Path) : Fault → Prop where
  /-- A root that is no text. -/
  | root (hr : root = none)
      (hv : (origin.option "PROJECT_ROOT" "project_root" (.text ".")).text? = none) :
      Misfit origin root .pathNotText
  /-- A log folder that is no text. -/
  | logFolder (hv : (origin.option "LOG_DIR" "log_dir" (.text ".release-gate/logs")).text? = none) :
      Misfit origin root .pathNotText
  /-- A time limit that is of no kind to be a number, or a whole number beyond all doubles. -/
  | taskLimit {e} (hv : (origin.option "TIMEOUT_PER_TASK_SECONDS" "timeout_per_task"
        (.ofDatum (.float 1800))).toFloat = .error e) (he : e = .wrongType ∨ e = .beyondFloat) :
      Misfit origin root (.number e)
  /-- Seconds of grace of the same sort. -/
  | grace {e} (hv : (origin.option "GRACEFUL_SHUTDOWN_SECONDS" "graceful_shutdown_seconds"
        (.ofDatum (.float 10))).toFloat = .error e) (he : e = .wrongType ∨ e = .beyondFloat) :
      Misfit origin root (.number e)
  /-- A number of bytes that is of no kind to be a number, or infinite. -/
  | previewBytes {e} (hv : (origin.option "OUTPUT_PREVIEW_BYTES" "output_preview_bytes"
        (.ofDatum (.int 64000))).toInt = .error e) (he : e = .wrongType ∨ e = .infiniteToInt) :
      Misfit origin root (.number e)
  /-- A time limit of a stage that is a whole number beyond all doubles. -/
  | stageLimit (hv : HasHugeLimit (origin.option "STAGE_TIMEOUTS" "stage_timeouts" (.map []))) :
      Misfit origin root (.number .beyondFloat)

/-- Faults of misfits are let through. -/
theorem Misfit.not_isReported {origin : Origin} {root : Option Path} {fault : Fault}
    (h : Misfit origin root fault) : ¬fault.IsReported := by
  cases h with
  | root | logFolder => exact Bool.false_ne_true
  | taskLimit hv he | grace hv he =>
    rw [Fault.isReported_number_iff]
    rcases he with rfl | rfl <;> simp
  | previewBytes hv he =>
    rw [Fault.isReported_number_iff]
    rcases he with rfl | rfl <;> simp
  | stageLimit hv => exact Bool.false_ne_true

/-- The entries of the configuration file of a run; without a file there are none. -/
def entriesFor (yaml : Yaml.Reader) (t : FileTree) (env : Environment) (file : Option Path) :
    Except Fault (List (Datum × Value)) :=
  match filePath env file with
  | some path => readEntries yaml t path
  | none => .ok []

theorem load_eq (yaml : Yaml.Reader) (t : FileTree) (env : Environment) (file root : Option Path) :
    load yaml t env file root =
      entriesFor yaml t env file >>= fun entries => ofOrigin ⟨env, entries⟩ root := by
  unfold load entriesFor
  cases filePath env file <;> rfl

/-- A configuration file that cannot be read although it is there, that its reader breaks off without a
word about its form, or that holds a misfit; with the fault that comes of it. -/
inductive LoadMisfit (yaml : Yaml.Reader) (t : FileTree) (env : Environment) (file root : Option Path) :
    Fault → Prop where
  | unreadable {path e} (hp : filePath env file = some path) (hr : t.read path.text = .error e)
      (hm : e.problem ≠ .missing) : LoadMisfit yaml t env file root (.file e)
  | undocumented {path bytes e} (hp : filePath env file = some path)
      (hr : t.read path.text = .ok bytes) (hy : yaml bytes = .error e)
      (hn : ¬(Fault.yaml e).IsReported) : LoadMisfit yaml t env file root (.yaml e)
  | option {entries fault} (he : entriesFor yaml t env file = .ok entries)
      (hm : Misfit ⟨env, entries⟩ root fault) : LoadMisfit yaml t env file root fault

theorem LoadMisfit.not_isReported {yaml : Yaml.Reader} {t : FileTree} {env : Environment}
    {file root : Option Path} {fault : Fault} (h : LoadMisfit yaml t env file root fault) : ¬fault.IsReported := by
  cases h with
  | unreadable => exact Bool.false_ne_true
  | undocumented hp hr hy hn => exact hn
  | option he hm => exact hm.not_isReported

/-- The check fails with an error of its own, and finds flags repeated only if they are. -/
theorem check_failsOnly_of {P : Fault → Prop} {s : Settings}
    (h : ∀ e, (e = .flagsRepeated → s.flags.eraseDups ≠ s.flags) → P (.settings e)) :
    FailsOnly P s.check := by
  have hother (e : SettingsError) (he : e ≠ .flagsRepeated) : P (.settings e) :=
    h e fun hrepeated => absurd hrepeated he
  have hrefuse (condition : Bool) (e : SettingsError) (he : e ≠ .flagsRepeated) :
      FailsOnly P (refuseIf condition e) := by
    cases condition with
    | false => exact .ok _
    | true => exact .error (hother e he)
  have hname (option name : String) : FailsOnly P (checkStageName option name) := by
    unfold checkStageName
    split
    · exact .ok _
    · exact .error (hother _ nofun)
  have hflags : FailsOnly P (refuseIf (s.flags.eraseDups.length != s.flags.length) .flagsRepeated) := by
    by_cases heq : s.flags.eraseDups = s.flags
    · rw [heq, bne_self_eq_false]
      exact .ok _
    · cases s.flags.eraseDups.length != s.flags.length with
      | false => exact .ok _
      | true => exact .error (h _ fun _ => heq)
  unfold check
  refine (hrefuse _ .taskLimitNotPositive nofun).bind fun _ _ =>
    (hrefuse _ .graceNegative nofun).bind fun _ _ =>
      (hrefuse _ .previewNotPositive nofun).bind fun _ _ => ?_
  refine (FailsOnly.forM fun limit _ => ?_).bind fun _ _ => ?_
  · exact (hname _ _).bind fun _ _ => hrefuse _ (.stageLimitNotPositive limit.1 limit.2) nofun
  · exact (FailsOnly.forM fun name _ => hname _ _).bind fun _ _ =>
      (hrefuse _ .toolchainEmpty nofun).bind fun _ _ => hflags

end Greenlight.Settings
