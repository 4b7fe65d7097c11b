import Greenlight.Gate
import Greenlight.Proofs.Discovery.Selection
import Greenlight.Proofs.Plan.FixedChecks
import Greenlight.Proofs.Plan.Queue
import Greenlight.Proofs.Settings.Validity
import Greenlight.Yaml

/-! # Narrower plans

To skip stages and to deny examples only takes tasks out of a plan. Main statement: a run with more names
of stages and examples has the plan without them, with the same tasks otherwise, in the same order. -/

namespace Greenlight

/-! ## Fixed checks -/

namespace Settings

/-- The fixed checks of a plan without stages to skip. -/
def fixedChecks (s : Settings) : Except Fault (List FixedCheck) :=
  match s.checks with
  | some declared => FixedCheck.readAll s.tools declared
  | none => .ok (FixedCheck.defaults s.tools)

theorem planChecks_eq (s : Settings) (skipped : List Stage) :
    s.planChecks skipped =
      s.fixedChecks.map fun checks => checks.filter fun check => !skipped.contains check.stage := by
  unfold planChecks fixedChecks
  cases s.checks with
  | none => rfl
  | some declared => cases FixedCheck.readAll s.tools declared <;> rfl

/-- No fixed check belongs to a stage whose tasks are found in the crate. -/
theorem isDiscovered_of_planChecks {s : Settings} {skipped : List Stage} {checks : List FixedCheck}
    (h : s.planChecks skipped = .ok checks) : ∀ check ∈ checks, check.stage.isDiscovered = false := by
  rw [planChecks_eq, map_eq_ok_iff] at h
  obtain ⟨all, hall, rfl⟩ := h
  intro check hm
  have hm := List.mem_of_mem_filter hm
  unfold fixedChecks at hall
  split at hall
  · exact FixedCheck.isDiscovered_of_readFrom hall check hm
  · cases hall
    exact FixedCheck.isDiscovered_of_mem_defaults check hm

end Settings

/-! ## Narrower settings -/

/-- Settings that skip further stages and deny further examples, and are the same otherwise. -/
structure Settings.Narrows (s narrow : Settings) (stages : List Stage) (examples : List String) :
    Prop where
  same : narrow =
    { s with skippedNames := narrow.skippedNames, deniedExamples := narrow.deniedExamples }
  skips : ∀ name, name ∈ narrow.skippedNames ↔ name ∈ s.skippedNames ∨ name ∈ stages.map Stage.name
  denies : ∀ name, name ∈ narrow.deniedExamples ↔ name ∈ s.deniedExamples ∨ name ∈ examples

namespace Settings.Narrows

variable {s narrow : Settings} {stages : List Stage} {examples : List String} {t : FileTree}
  {skipped more : List Stage}

theorem tools_eq (h : s.Narrows narrow stages examples) : narrow.tools = s.tools := by
  rw [h.same]
  rfl

theorem valid (h : s.Narrows narrow stages examples) (hv : s.Valid) : narrow.Valid := by
  have hskipped : ∀ name ∈ narrow.skippedNames, ∃ stage : Stage, stage.name = name := by
    intro name hm
    rcases (h.skips name).1 hm with hm | hm
    · exact hv.skippedNames name hm
    · exact (List.mem_map.1 hm).imp fun _ => And.right
  rw [h.same]
  exact ⟨hv.taskLimit, hv.grace, hv.previewBytes, hv.stageLimits, hskipped, hv.toolchain, hv.flags⟩

/-- The stages that are skipped, in whatever order. -/
theorem mem_skippedStages (h : s.Narrows narrow stages examples)
    (hs : s.skippedStages = .ok skipped) (hm : narrow.skippedStages = .ok more) (stage : Stage) :
    stage ∈ more ↔ stage ∈ skipped ∨ stage ∈ stages := by
  rw [Settings.mem_skippedStages hm, Settings.mem_skippedStages hs, h.skips, List.mem_map]
  simp only [Stage.name_inj, exists_eq_right]

/-! ## The parts of a narrower plan -/

theorem planExamples_eq_ok (h : s.Narrows narrow stages examples)
    (hmore : ∀ stage, stage ∈ more ↔ stage ∈ skipped ∨ stage ∈ stages) {names : List String}
    (hn : s.planExamples t skipped = .ok names) :
    narrow.planExamples t more =
      .ok (names.filter fun name => .examples ∉ stages ∧ name ∉ examples) := by
  unfold Settings.planExamples at hn ⊢
  simp only [List.contains_eq_mem, decide_eq_true_eq, hmore] at hn ⊢
  by_cases hs : Stage.examples ∈ stages
  · simp [hs]
  · split at hn
    · next hskipped =>
        cases hn
        simp [hskipped]
    · next hskipped =>
        simp only [hskipped, hs, or_self, if_false]
        have hroot : narrow.root = s.root := by rw [h.same]
        rw [hroot]
        obtain ⟨found, hfound, rfl⟩ := map_eq_ok_iff.1 hn
        unfold Discovery.examples at hfound ⊢
        simp only [bind_eq_ok_iff] at hfound
        obtain ⟨_, hr, manifest, hm, offered, ho, hf⟩ := hfound
        cases hf
        rw [map_eq_ok_iff]
        simp only [bind_eq_ok_iff]
        refine ⟨_, ⟨_, hr, manifest, hm, offered, ho, rfl⟩, ?_⟩
        rw [Discovery.map_name_selectExamples_of_denied offered h.denies]
        simp

theorem planFeatures_eq_ok (h : s.Narrows narrow stages examples)
    (hmore : ∀ stage, stage ∈ more ↔ stage ∈ skipped ∨ stage ∈ stages) {sets : List FeatureSet}
    (hs : s.planFeatures t skipped = .ok sets) :
    narrow.planFeatures t more = .ok (sets.filter fun _ => .tests ∉ stages) := by
  have hflags : narrow.knownFlags t = s.knownFlags t := by
    rw [h.same]
    rfl
  have hpolicy : narrow.featurePolicy = s.featurePolicy := by
    rw [h.same]
    rfl
  unfold Settings.planFeatures at hs ⊢
  simp only [List.contains_eq_mem, decide_eq_true_eq, hmore] at hs ⊢
  by_cases ht : Stage.tests ∈ stages
  · simp [ht]
  · split at hs
    · next hskipped =>
        cases hs
        simp [hskipped]
    · next hskipped => simpa [hskipped, ht, hflags, hpolicy] using hs

theorem planChecks_eq_ok (h : s.Narrows narrow stages examples)
    (hmore : ∀ stage, stage ∈ more ↔ stage ∈ skipped ∨ stage ∈ stages) {checks : List FixedCheck}
    (hc : s.planChecks skipped = .ok checks) :
    narrow.planChecks more = .ok (checks.filter fun check => check.stage ∉ stages) := by
  have hall : narrow.fixedChecks = s.fixedChecks := by
    rw [h.same]
    rfl
  rw [Settings.planChecks_eq, map_eq_ok_iff] at hc ⊢
  obtain ⟨all, ha, rfl⟩ := hc
  refine ⟨all, hall ▸ ha, ?_⟩
  rw [List.filter_filter]
  refine List.filter_congr fun check _ => ?_
  simp only [List.contains_eq_mem, hmore, Bool.decide_or, Bool.not_or, decide_not, Bool.and_comm]

end Settings.Narrows

/-! ## Narrower plans -/

namespace Plan

/-- A task belongs to none of some stages and runs none of some examples. -/
def isSpared (tools : Toolchain) (stages : List Stage) (examples : List String) (task : Task) : Bool :=
  task.stage ∉ stages ∧ task ∉ examples.map (exampleTask tools)

variable {tools : Toolchain} {stages : List Stage} {examples : List String}

theorem exampleTask_inj {name other : String} :
    exampleTask tools name = exampleTask tools other ↔ name = other := by
  constructor
  · intro h
    exact (String.append_right_inj _).1 (congrArg Task.id h)
  · rintro rfl
    rfl

theorem isSpared_exampleTask (name : String) :
    isSpared tools stages examples (exampleTask tools name) =
      decide (.examples ∉ stages ∧ name ∉ examples) := by
  simp only [isSpared, List.mem_map, exampleTask_inj, exists_eq_right]
  rfl

/-- A task of another stage runs no example. -/
theorem isSpared_of_stage_ne {task : Task} (h : task.stage ≠ .examples) :
    isSpared tools stages examples task = decide (task.stage ∉ stages) := by
  have hn : task ∉ examples.map (exampleTask tools) := by
    rw [List.mem_map]
    rintro ⟨name, -, rfl⟩
    exact h rfl
  simp only [isSpared, hn, not_false_eq_true, and_true]

end Plan

theorem Settings.Narrows.plan_eq_ok {s narrow : Settings} {stages : List Stage}
    {examples : List String} {t : FileTree} {tasks : List Task}
    (h : s.Narrows narrow stages examples) (hv : s.Valid) (hp : s.plan t = .ok tasks) :
    narrow.plan t = .ok (tasks.filter (Plan.isSpared s.tools stages examples)) := by
  unfold Settings.plan at hp ⊢
  simp only [bind_eq_ok_iff] at hp ⊢
  obtain ⟨skipped, hskipped, names, hnames, sets, hsets, checks, hchecks, hp⟩ := hp
  obtain ⟨more, hm⟩ := (h.valid hv).exists_skippedStages
  have hmore := h.mem_skippedStages hskipped hm
  refine ⟨more, hm, _, h.planExamples_eq_ok hmore hnames, _, h.planFeatures_eq_ok hmore hsets, _,
    h.planChecks_eq_ok hmore hchecks, ?_⟩
  rw [h.tools_eq]
  refine Plan.expand_filter hp ?_ ?_ ?_
  · intro name _
    exact Plan.isSpared_exampleTask name
  · intro combination _
    exact Plan.isSpared_of_stage_ne (by simp [Plan.testTask])
  · intro check hcm task htask
    have hstage := Plan.stage_of_checkTask htask
    have hother : task.stage ≠ .examples := by
      intro he
      have hd := Settings.isDiscovered_of_planChecks hchecks check hcm
      rw [← hstage, he] at hd
      cases hd
    rw [Plan.isSpared_of_stage_ne hother, hstage]

namespace Gate

/-- The options with more stages to skip and more examples to deny. -/
def Options.narrowed (o : Options) (stages : List Stage) (examples : List String) : Options :=
  { o with
    skippedNames := o.skippedNames ++ stages.map Stage.name
    deniedExamples := o.deniedExamples ++ examples }

theorem Options.narrows_apply (o : Options) (stages : List Stage) (examples : List String)
    (s : Settings) : (o.apply s).Narrows ((o.narrowed stages examples).apply s) stages examples where
  same := rfl
  skips name := by simp [apply, narrowed, or_assoc]
  denies name := by simp [apply, narrowed, or_assoc]

/-- More stages to skip and more examples to deny only take tasks out of a plan: those of the stages,
and those that run the examples. The others stay as they are, in their order. -/
theorem prepare_narrowed {yaml : Yaml.Reader} {o : Options} {env : Environment} {t : FileTree}
    {s : Settings} {tasks : List Task} (h : prepare yaml o env t = .ok (s, tasks)) (stages : List Stage)
    (examples : List String) :
    ∃ narrow, prepare yaml (o.narrowed stages examples) env t =
      .ok (narrow, tasks.filter (Plan.isSpared s.tools stages examples)) := by
  unfold prepare Options.settings at h
  simp only [bind_eq_ok_iff] at h
  obtain ⟨_, ⟨loaded, hl, _, hc, hs⟩, _, hp, hr⟩ := h
  cases hs
  cases hr
  have hn := o.narrows_apply stages examples loaded
  have hv := Settings.check_eq_ok_iff.1 hc
  refine ⟨(o.narrowed stages examples).apply loaded, ?_⟩
  unfold prepare Options.settings
  simp only [bind_eq_ok_iff]
  exact ⟨_, ⟨loaded, hl, (), Settings.check_eq_ok_iff.2 (hn.valid hv), rfl⟩, _,
    hn.plan_eq_ok hv hp, rfl⟩

/-- The documentation and the examples are taken out of a plan that skips the supported versions. -/
theorem prepare_narrowed_docs :
    let env := [("RELEASE_GATE_FLAGS", "tls"), ("RELEASE_GATE_SKIP_STAGES", "examples, msrv")]
    let narrowed := Options.none.narrowed [.docs, .examples] ["demo"]
    ∃ s tasks narrow, prepare Yaml.read .none env .empty = .ok (s, tasks) ∧
      tasks.map Task.id = ["test:none", "test:tls", "lint", "docs", "publish"] ∧
      prepare Yaml.read narrowed env .empty =
        .ok (narrow, tasks.filter (Plan.isSpared s.tools [.docs, .examples] ["demo"])) ∧
      (tasks.filter (Plan.isSpared s.tools [.docs, .examples] ["demo"])).map Task.id =
        ["test:none", "test:tls", "lint", "publish"] := by
  intro env narrowed
  have hplan : (prepare Yaml.read .none env .empty).toOption.map (fun (s, tasks) => (tasks.map Task.id,
      (tasks.filter (Plan.isSpared s.tools [.docs, .examples] ["demo"])).map Task.id)) =
      some (["test:none", "test:tls", "lint", "docs", "publish"],
        ["test:none", "test:tls", "lint", "publish"]) := by
    decide +kernel
  cases h : prepare Yaml.read .none env .empty with
  | error fault =>
    rw [h] at hplan
    cases hplan
  | ok planned =>
    obtain ⟨s, tasks⟩ := planned
    rw [h] at hplan
    obtain ⟨hids, hleft⟩ := Prod.mk.inj (Option.some.inj hplan)
    obtain ⟨narrow, hn⟩ := prepare_narrowed h [.docs, .examples] ["demo"]
    exact ⟨s, tasks, narrow, rfl, hids, hn, hleft⟩

end Gate

end Greenlight
