import Greenlight.Process.Watch
import Greenlight.Proofs.Campaign.Turn
import Greenlight.Proofs.Decimal.Order
import Greenlight.Proofs.Gate.Modes

/-! # Limits of settings that passed the check

The check of settings refuses limits on the wrong side of zero. Main statement: a limit that passed it is a
real limit unless it is undefined, stages have names that exist, and every request that a task is
executed with has the limit of its stage. An undefined limit passes the check too, and no time reaches
it. -/

namespace Greenlight

/-! ## Limits of requests -/

/-- The time of a command is never up under an undefined limit. -/
theorem Watch.isTimeUp_of_isNaN {request : Request} {seconds : Float}
    (h : request.timeLimit = some seconds) (hn : seconds.isNaN = true) (start now : Rat) :
    (Terms.ofRequest start request).isTimeUp now = false := by
  have hlimit : (Terms.ofRequest start request).timeLimit = none := by
    rw [Terms.ofRequest, h, Option.bind_some, exactLimit, Decimal.Reading.ofFloat_of_isNaN hn]
  rw [Terms.isTimeUp, hlimit]

/-- What executing a task asks of the runner is the request of the task. -/
theorem Campaign.asked_execute {σ : Type} (setup : Setup) (sur : Surroundings σ) (task : Task)
    (place : Option Int) (watchesStop : Bool) (c : Campaign σ) :
    ∃ more, (c.execute setup sur task place watchesStop).2.asked = c.asked ++ more ∧
      ∀ asked ∈ more, ∃ command, asked.request = setup.request task command place watchesStop := by
  cases hc : task.commandTexts with
  | error fault => exact ⟨[], by simp [execute, hc], fun _ hm => absurd hm List.not_mem_nil⟩
  | ok command =>
    obtain ⟨asked, _, hr, -, hg, -⟩ := execute_grows setup sur hc place watchesStop c
    refine ⟨[asked], hg.asked, fun other hm => ?_⟩
    rw [List.mem_singleton.1 hm]
    exact ⟨command, hr⟩

namespace Settings

/-- The time limit of the tasks of a stage: its own, or else the one for all. -/
def limitOf (s : Settings) (stage : Stage) : Float :=
  (s.stageLimits.lookup stage.name).getD s.taskLimit

/-- The limits of stages are found by the names of the stages. -/
theorem lookup_perStage (s : Settings) (env : Environment) (stage : Stage) :
    (s.setup env).limits.perStage.lookup stage = s.stageLimits.lookup stage.name := by
  rw [setup]
  induction s.stageLimits with
  | nil => rfl
  | cons limit rest ih =>
    obtain ⟨name, seconds⟩ := limit
    rw [List.lookup_cons]
    cases hs : Stage.ofName? name with
    | none =>
      have hne : (stage.name == name) = false := by
        refine beq_false_of_ne fun h => ?_
        rw [← h, Stage.ofName?_name] at hs
        cases hs
      simpa [hs, hne] using ih
    | some other =>
      obtain rfl := Stage.ofName?_eq_some_iff.1 hs
      have heq : (stage == other) = (stage.name == other.name) := by
        rw [Bool.eq_iff_iff, beq_iff_eq, beq_iff_eq, Stage.name_inj]
      simp only [List.filterMap_cons, hs, Option.map_some, List.lookup_cons, heq, ih]

/-- The time limit of a request is that of the stage of its task. -/
theorem timeLimit_request (s : Settings) (env : Environment) (task : Task) (command : List String)
    (place : Option Int) (watchesStop : Bool) :
    ((s.setup env).request task command place watchesStop).timeLimit =
      some (s.limitOf task.stage) := by
  change (s.setup env).limits.of task.stage = _
  rw [TimeLimits.of_eq_lookup, lookup_perStage, limitOf]
  cases s.stageLimits.lookup task.stage.name <;> rfl

/-! ## Checked limits -/

namespace Valid

variable {s : Settings}

theorem zero_lt_stageLimit_iff (h : s.Valid) {limit : String × Float} (hm : limit ∈ s.stageLimits) :
    0 < limit.2 ↔ limit.2.isNaN = false :=
  Decimal.zero_lt_iff.trans (and_iff_right (h.stageLimits limit hm).2)

theorem zero_lt_taskLimit_iff (h : s.Valid) : 0 < s.taskLimit ↔ s.taskLimit.isNaN = false :=
  Decimal.zero_lt_iff.trans (and_iff_right h.taskLimit)

theorem zero_le_grace_iff (h : s.Valid) : 0 ≤ s.grace ↔ s.grace.isNaN = false :=
  Decimal.zero_le_iff.trans (and_iff_right h.grace)

theorem zero_lt_limitOf_iff (h : s.Valid) (stage : Stage) :
    0 < s.limitOf stage ↔ (s.limitOf stage).isNaN = false := by
  rw [limitOf]
  cases hl : s.stageLimits.lookup stage.name with
  | none => simpa only [Option.getD_none] using h.zero_lt_taskLimit_iff
  | some seconds =>
    obtain ⟨before, after, hlimits, -⟩ := List.lookup_eq_some_iff.1 hl
    have hm : (stage.name, seconds) ∈ s.stageLimits := by simp [hlimits]
    simpa only [Option.getD_some] using h.zero_lt_stageLimit_iff hm

/-- Building the limits of a campaign from the names of stages does not fail. -/
theorem mapM_stageLimits (h : s.Valid) (env : Environment) :
    (s.stageLimits.mapM fun (name, seconds) => (Stage.ofName name).map (·, seconds)) =
      .ok (s.setup env).limits.perStage := by
  rw [mapM_eq_ok_iff, ← h.map_perStage env, List.forall₂_map_left_iff, List.forall₂_same]
  intro limit _
  exact map_eq_ok_iff.2 ⟨limit.1, Stage.ofName_eq_ok_iff.2 rfl, rfl⟩

end Valid

/-- The request of a task of a stage is limited: its limit is that of the stage and lies above zero if it
is defined; if not, the time of the command is never up. -/
structure Limits (s : Settings) (stage : Stage) (request : Request) : Prop where
  timeLimit : request.timeLimit = some (s.limitOf stage)
  isLimit_iff : 0 < s.limitOf stage ↔ (s.limitOf stage).isNaN = false
  neverUp : (s.limitOf stage).isNaN = true →
    ∀ start now, (Watch.Terms.ofRequest start request).isTimeUp now = false

/-- Limits are real where they are defined, names are those of stages, and every task is executed with
the limit of its stage. -/
structure HasRealLimits (s : Settings) : Prop where
  taskLimit : 0 < s.taskLimit ↔ s.taskLimit.isNaN = false
  grace : 0 ≤ s.grace ↔ s.grace.isNaN = false
  previewBytes : 0 < s.previewBytes
  stageLimits : ∀ limit ∈ s.stageLimits,
    (∃ stage : Stage, stage.name = limit.1) ∧ (0 < limit.2 ↔ limit.2.isNaN = false)
  skippedNames : ∀ name ∈ s.skippedNames, ∃ stage : Stage, stage.name = name
  skippedStages : ∃ skipped, s.skippedStages = .ok skipped ∧
    ∀ stage, stage ∈ skipped ↔ stage.name ∈ s.skippedNames
  perStage : ∀ env,
    (s.stageLimits.mapM fun (name, seconds) => (Stage.ofName name).map (·, seconds)) =
      .ok (s.setup env).limits.perStage
  requests : ∀ {σ : Type} (env : Environment) (sur : Surroundings σ) (c : Campaign σ) (task : Task)
    (place : Option Int) (watchesStop : Bool), ∃ more,
      (c.execute (s.setup env) sur task place watchesStop).2.asked = c.asked ++ more ∧
        ∀ asked ∈ more, s.Limits task.stage asked.request

/-- Settings that passed the check have real limits, up to undefined ones. -/
theorem hasRealLimits_of_check {s : Settings} (hcheck : s.check = .ok ()) : s.HasRealLimits := by
  have h := check_eq_ok_iff.1 hcheck
  constructor
  · exact h.zero_lt_taskLimit_iff
  · exact h.zero_le_grace_iff
  · exact h.previewBytes
  · exact fun limit hm => ⟨(h.stageLimits limit hm).1, h.zero_lt_stageLimit_iff hm⟩
  · exact h.skippedNames
  · obtain ⟨skipped, hs⟩ := h.exists_skippedStages
    exact ⟨skipped, hs, mem_skippedStages hs⟩
  · exact h.mapM_stageLimits
  · intro σ env sur c task place watchesStop
    obtain ⟨more, hmore, hrequests⟩ :=
      Campaign.asked_execute (s.setup env) sur task place watchesStop c
    refine ⟨more, hmore, fun asked hm => ?_⟩
    obtain ⟨command, hr⟩ := hrequests asked hm
    have hlimit : asked.request.timeLimit = some (s.limitOf task.stage) := by
      rw [hr, timeLimit_request]
    exact ⟨hlimit, h.zero_lt_limitOf_iff task.stage, Watch.isTimeUp_of_isNaN hlimit⟩

/-- Limits of stages in the environment, one of them infinite. -/
theorem hasRealLimits_of_check_stageLimits :
    ∃ s, load Yaml.read .empty [("RELEASE_GATE_STAGE_TIMEOUTS", "docs=inf, lint=30")] none none = .ok s ∧
      s.check = .ok () ∧ s.stageLimits.map Prod.fst = ["docs", "lint"] ∧
      Stage.all.all (fun stage => !(s.limitOf stage).isNaN) = true ∧ s.HasRealLimits := by
  have hload :
      (load Yaml.read .empty [("RELEASE_GATE_STAGE_TIMEOUTS", "docs=inf, lint=30")] none none).toOption.map
        (fun s => (s.check.toOption, s.stageLimits.map Prod.fst,
          Stage.all.all fun stage => !(s.limitOf stage).isNaN)) =
        some (some (), ["docs", "lint"], true) := by
    decide +kernel
  obtain ⟨s, hs, he⟩ := exists_ok_of_toOption hload
  obtain ⟨hchecked, hnames, hdefined⟩ := Prod.mk.inj he |>.imp id Prod.mk.inj
  have hcheck := toOption_eq_some_iff.1 hchecked
  exact ⟨s, hs, hcheck, hnames, hdefined, hasRealLimits_of_check hcheck⟩

/-- An undefined limit passes the check, and the time of no command is ever up. -/
theorem check_undefinedLimit :
    ∃ s, load Yaml.read .empty [("RELEASE_GATE_TIMEOUT_PER_TASK_SECONDS", "nan")] none none = .ok s ∧
      s.check = .ok () ∧ ¬0 < s.taskLimit ∧
      ∀ env task command place watchesStop start now,
        (Watch.Terms.ofRequest start
          ((s.setup env).request task command place watchesStop)).isTimeUp now = false := by
  have hload :
      (load Yaml.read .empty [("RELEASE_GATE_TIMEOUT_PER_TASK_SECONDS", "nan")] none none).toOption.map
        (fun s => (s.check.toOption, s.taskLimit.isNaN, s.stageLimits.map Prod.fst)) =
        some (some (), true, []) := by
    decide +kernel
  obtain ⟨s, hs, he⟩ := exists_ok_of_toOption hload
  obtain ⟨hcheck, hnan, hlimits⟩ := Prod.mk.inj he |>.imp id Prod.mk.inj
  refine ⟨s, hs, toOption_eq_some_iff.1 hcheck, fun hpos => ?_, ?_⟩
  · rw [(Decimal.zero_lt_iff.1 hpos).2] at hnan
    cases hnan
  · intro env task command place watchesStop start now
    have hlimit : s.limitOf task.stage = s.taskLimit := by
      rw [limitOf, List.map_eq_nil_iff.1 hlimits]
      rfl
    have hrequest := s.timeLimit_request env task command place watchesStop
    exact Watch.isTimeUp_of_isNaN hrequest (hlimit ▸ hnan) start now

end Settings

end Greenlight
