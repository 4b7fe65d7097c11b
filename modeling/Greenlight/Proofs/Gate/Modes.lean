import Greenlight.Proofs.Campaign.Accounting
import Greenlight.Proofs.Gate.SetupFaults
import Greenlight.Proofs.Settings.Validity

/-! # Planning and running

A run that only plans and one that executes its plan begin alike. Main statement: they fail alike, or the
plan that is printed is what the other run executes, as far as it comes. -/

namespace Greenlight

/-! ## The setup of a campaign -/

/-- No time limit of a stage is lost when valid settings are set up. -/
theorem Settings.Valid.map_perStage {s : Settings} (h : s.Valid) (env : Environment) :
    (s.setup env).limits.perStage.map (fun (stage, seconds) => (stage.name, seconds)) =
      s.stageLimits := by
  have hname : ∀ limit ∈ s.stageLimits,
      (((Stage.ofName? limit.1).map fun stage => (stage, limit.2)).map fun (stage, seconds) =>
        (stage.name, seconds)) = some limit := by
    intro limit hm
    obtain ⟨stage, hs⟩ := (h.stageLimits limit hm).1
    rw [Stage.ofName?_eq_some_iff.2 hs]
    exact congrArg (fun name => some (name, limit.2)) hs
  rw [Settings.setup, List.map_filterMap, List.filterMap_congr hname, List.filterMap_some]

namespace Campaign

variable {σ : Type} {setup : Setup} {sur : Surroundings σ} {policy : Policy} {tasks : List Task}
  {c after : Campaign σ} {legs : List Leg} {rest : List Task} {ending : Ending} {report : Report}

/-- Every task of the queue is executed or left over. -/
theorem RunSpec.ids_eq (h : RunSpec setup sur policy tasks c legs rest ending report after) :
    report.executedIds ++ report.notRun = tasks.map Task.id := by
  rw [h.executedIds_eq, h.tells.notRun, ← h.tasks_eq, List.map_append, List.map_map]
  rfl

/-- The runner is asked for the commands of the queue, in their order. -/
theorem RunSpec.commands_isPrefix
    (h : RunSpec setup sur policy tasks c legs rest ending report after) :
    legs.map (·.asked.request.command.map Arg.text) <+: tasks.map Task.command := by
  have hcommands : legs.map (·.asked.request.command.map Arg.text) =
      (legs.map Leg.task).map Task.command := by
    rw [List.map_map]
    exact List.map_congr_left fun leg hm => (h.fits leg hm).request.command
  rw [hcommands, ← h.tasks_eq, List.map_append]
  exact List.prefix_append _ _

end Campaign

namespace Gate

variable {yaml : Yaml.Reader} {o : Options} {env : Environment} {t : FileTree} {s : Settings}
  {tasks : List Task} {fault : Fault}

theorem valid_of_prepare (h : prepare yaml o env t = .ok (s, tasks)) : s.Valid := by
  unfold prepare Options.settings at h
  simp only [bind_eq_ok_iff] at h
  obtain ⟨_, ⟨loaded, -, _, hc, hs⟩, _, -, hr⟩ := h
  cases hs
  cases hr
  exact Settings.check_eq_ok_iff.1 hc

/-! ## Verdicts -/

/-- The verdict on a fault of the setup is that the run was not started. -/
theorem setupAnswer_eq_ok {verdict : Verdict} (h : setupAnswer fault = .ok verdict) :
    verdict.exitCode.number = 4 ∧
      ∃ title ∈ ["Configuration error", "Discovery error", "Expansion error"],
        verdict.lines = [s!"{title}: {fault.message}", "Release check status: not started"] := by
  unfold setupAnswer at h
  split at h
  · next title ht =>
      cases h
      exact ⟨rfl, title, title_mem ht, rfl⟩
  · cases h

/-- The verdict on a campaign is that of its report. -/
theorem conclude_eq_ok {report : Report} {verdict : Verdict} {next : FileTree}
    (h : conclude o report t = .ok (verdict, next)) :
    verdict.exitCode = report.exitCode ∧ report.lines o.showOutput <+: verdict.lines := by
  unfold conclude at h
  split at h
  · cases h
    exact ⟨rfl, List.prefix_rfl⟩
  · obtain ⟨_, -, hr⟩ := bind_eq_ok_iff.1 h
    cases hr
    exact ⟨rfl, List.prefix_append _ _⟩

/-! ## The two modes -/

/-- A run with the same options that only plans, or that executes its plan. -/
def Options.planning (o : Options) (planOnly : Bool) : Options := { o with planOnly }

/-- Both modes have the same settings and the same queue. -/
theorem prepare_planning (yaml : Yaml.Reader) (o : Options) (planOnly : Bool) (env : Environment)
    (t : FileTree) :
    prepare yaml (o.planning planOnly) env t = prepare yaml o env t := rfl

/-- A verdict of a run that executes its plan is that on its campaign. -/
theorem run_eq_ok_of_prepare {sur : Surroundings FileTree} {verdict : Verdict}
    {after : Campaign FileTree} (hp : prepare yaml o env t = .ok (s, tasks))
    (h : run yaml sur (o.planning false) env t = (.ok verdict, after)) :
    ∃ report ended next,
      (Campaign.idle t).run (s.setup env) sur s.policy tasks = (.ok report, ended) ∧
        conclude o report ended.world = .ok (verdict, next) ∧ after = { ended with world := next } := by
  unfold run at h
  rw [prepare_planning, hp] at h
  simp only [Options.planning, Bool.false_eq_true, if_false] at h
  split at h
  · cases h
  · next report ended hrun =>
      split at h
      · cases h
      · next hc =>
          cases h
          exact ⟨report, ended, _, hrun, hc, rfl⟩

/-- A run that has a report, and no file to write it to, gives its verdict. -/
theorem run_of_report {sur : Surroundings FileTree} {report : Report} {ended : Campaign FileTree}
    (hp : prepare yaml o env t = .ok (s, tasks)) (hf : o.reportFile = none)
    (h : (Campaign.idle t).run (s.setup env) sur s.policy tasks = (.ok report, ended)) :
    run yaml sur (o.planning false) env t = (.ok ⟨report.lines o.showOutput, report.exitCode⟩, ended) := by
  unfold run
  rw [prepare_planning, hp]
  simp only [Options.planning, Bool.false_eq_true, if_false, h, conclude, hf]

/-- Both modes fail alike: no command is run, no file is changed, and a verdict is that the run was not
started. -/
structure FailAlike (yaml : Yaml.Reader) (sur : Surroundings FileTree) (o : Options)
    (env : Environment) (t : FileTree) (fault : Fault) : Prop where
  planned : run yaml sur (o.planning true) env t = (setupAnswer fault, Campaign.idle t)
  ran : run yaml sur (o.planning false) env t = (setupAnswer fault, Campaign.idle t)
  verdict : ∀ verdict, setupAnswer fault = .ok verdict → verdict.exitCode.number = 4 ∧
    ∃ title ∈ ["Configuration error", "Discovery error", "Expansion error"],
      verdict.lines = [s!"{title}: {fault.message}", "Release check status: not started"]

/-- The plan that is printed is what the other mode executes. To plan runs no command and changes no file;
to run asks for the commands of the plan in their order, under time limits that are all set up, and
reports every task of the plan as executed or left over. Its report is not lost. -/
structure PlanIsRun (yaml : Yaml.Reader) (sur : Surroundings FileTree) (o : Options)
    (env : Environment) (t : FileTree) (s : Settings) (tasks : List Task) : Prop where
  planned : run yaml sur (o.planning true) env t =
    ((Plan.lines tasks).map fun lines => ⟨lines, .passed⟩, Campaign.idle t)
  limits : (s.setup env).limits.perStage.map (fun (stage, seconds) => (stage.name, seconds)) =
    s.stageLimits
  ran : ∀ verdict after, run yaml sur (o.planning false) env t = (.ok verdict, after) →
    ∃ report, ((Campaign.idle t).run (s.setup env) sur s.policy tasks).1 = .ok report ∧
      verdict.exitCode = report.exitCode ∧ report.lines o.showOutput <+: verdict.lines ∧
      report.executedIds ++ report.notRun = tasks.map Task.id ∧
      after.asked.map (·.request.command.map Arg.text) <+: tasks.map Task.command
  reported : ∀ report ended, o.reportFile = none →
    (Campaign.idle t).run (s.setup env) sur s.policy tasks = (.ok report, ended) →
    run yaml sur (o.planning false) env t = (.ok ⟨report.lines o.showOutput, report.exitCode⟩, ended)

theorem run_modes (yaml : Yaml.Reader) (sur : Surroundings FileTree) (o : Options) (env : Environment)
    (t : FileTree) :
    (∃ fault, prepare yaml o env t = .error fault ∧ FailAlike yaml sur o env t fault) ∨
      ∃ s tasks, prepare yaml o env t = .ok (s, tasks) ∧ PlanIsRun yaml sur o env t s tasks := by
  cases hp : prepare yaml o env t with
  | error fault =>
    refine .inl ⟨fault, rfl, ?_⟩
    constructor
    · exact run_of_prepare_error sur hp
    · exact run_of_prepare_error sur hp
    · exact fun _ => setupAnswer_eq_ok
  | ok prepared =>
    obtain ⟨s, tasks⟩ := prepared
    refine .inr ⟨s, tasks, rfl, ?_⟩
    constructor
    · unfold run
      rw [prepare_planning, hp]
      rfl
    · exact (valid_of_prepare hp).map_perStage env
    · intro verdict after h
      obtain ⟨report, ended, next, hrun, hc, rfl⟩ := run_eq_ok_of_prepare hp h
      obtain ⟨hcode, hlines⟩ := conclude_eq_ok hc
      obtain ⟨legs, rest, ending, hs⟩ := Campaign.run_spec hrun
      have hasked : ended.asked = legs.map Campaign.Leg.asked := hs.leads.asked
      refine ⟨report, congrArg Prod.fst hrun, hcode, hlines, hs.ids_eq, ?_⟩
      rw [hasked, List.map_map]
      exact hs.commands_isPrefix
    · exact fun report ended hf h => run_of_report hp hf h

end Gate

end Greenlight
