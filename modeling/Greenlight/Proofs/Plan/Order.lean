import Greenlight.Proofs.FlagSet.Names
import Greenlight.Proofs.Plan.FixedChecks
import Greenlight.Proofs.Plan.Ids

/-! # The order of a plan

A queue is refused for a fixed check without a command or for an id that comes twice, and for nothing
else. Main statement: otherwise each example, each combination and each fixed check has one task, in this
order, and without declared checks the tasks follow the order of the stages. -/

namespace Greenlight

/-- The place of a stage in the order of the stages. -/
def Stage.position (stage : Stage) : Nat := Stage.all.idxOf stage

namespace Plan

variable {t : Toolchain} {examples : List String} {features : List FeatureSet}
  {checks : List FixedCheck} {tasks fixed : List Task} {fault : Fault}

/-! ## Tasks of each kind -/

/-- Arguments that choose the flags of a combination. -/
structure ChoosesFlags (flags : FlagSet) (args : List String) : Prop where
  mem_iff : "-F" ∈ args ↔ flags ≠ .empty
  eq_nil : flags = .empty → args = []
  /-- Flags without a comma are read back from the argument. -/
  readBack : flags ≠ .empty → ∃ arg, args = ["-F", arg] ∧
    ((∀ flag ∈ flags.names, ',' ∉ flag.toList) → FlagSet.ofList (Text.pieces ',' arg) = flags)

/-- The task of an example. -/
structure RunsExample (t : Toolchain) (name : String) (task : Task) : Prop where
  id : task.id = "example:" ++ name
  command : task.command =
    t.command (Arg.ofTexts ["run", "--release", "--all-features", "--example", name])
  severity : task.severity = .blocking
  stage : task.stage = .examples

/-- The task of a combination. -/
structure TestsFlags (t : Toolchain) (combination : FeatureSet) (task : Task) : Prop where
  id : task.id = "test:" ++ combination.name
  command : ∃ args, task.command = t.command (Arg.ofTexts ("test" :: args)) ∧
    ChoosesFlags combination.flags args
  severity : task.severity = .blocking
  stage : task.stage = .tests

/-- The task of a fixed check. -/
structure PerformsCheck (check : FixedCheck) (task : Task) : Prop where
  id : task.id = check.id
  command : task.command = check.command
  ne_nil : task.command ≠ []
  severity : task.severity = check.severity
  stage : task.stage = check.stage
  environment : task.environment = check.environment

theorem flagArgs_choosesFlags (flags : FlagSet) : ChoosesFlags flags (flagArgs flags) := by
  by_cases hempty : flags = .empty
  · have hargs : flagArgs flags = [] := by simp [flagArgs, FlagSet.isEmpty_eq_true_iff.2 hempty]
    constructor
    · rw [hargs]
      simp [hempty]
    · intro _
      exact hargs
    · intro hne
      exact absurd hempty hne
  · have hnames : flags.names ≠ [] := FlagSet.names_ne_nil_iff.2 hempty
    have hargs : flagArgs flags = ["-F", Text.join "," flags.names] := by
      simp [flagArgs, FlagSet.isEmpty_eq_true_iff, hempty]
    constructor
    · simp [hargs, hempty]
    · intro h
      exact absurd h hempty
    · intro _
      refine ⟨_, hargs, ?_⟩
      intro hcommas
      rw [Text.pieces_join_of_not_mem rfl hnames hcommas]
      exact flags.ofList_names

theorem exampleTask_runsExample (t : Toolchain) (name : String) :
    RunsExample t name (exampleTask t name) := by
  constructor <;> rfl

theorem testTask_testsFlags (t : Toolchain) (combination : FeatureSet) :
    TestsFlags t combination (testTask t combination) where
  id := rfl
  command := ⟨_, rfl, flagArgs_choosesFlags combination.flags⟩
  severity := rfl
  stage := rfl

theorem checkTask_eq_ok {check : FixedCheck} {task : Task} (h : checkTask check = .ok task) :
    PerformsCheck check task := by
  unfold checkTask at h
  split at h
  · cases h
  · next hne =>
      cases h
      exact ⟨rfl, rfl, fun he => hne (List.isEmpty_iff.2 he), rfl, rfl, rfl⟩

/-! ## Refused queues -/

/-- The ids of the tasks of a queue. -/
def idsOf (examples : List String) (features : List FeatureSet) (checks : List FixedCheck) :
    List String :=
  examples.map ("example:" ++ ·) ++ features.map ("test:" ++ ·.name) ++ checks.map FixedCheck.id

theorem checkTask_failsOnly (check : FixedCheck) :
    FailsOnly (fun fault => check.command = [] ∧ fault = .expansion (.commandEmpty check.id))
      (checkTask check) := by
  unfold checkTask
  split
  · next he => exact .error ⟨List.isEmpty_iff.1 he, rfl⟩
  · exact .ok _

/-- A queue is refused for a check without a command, or for an id that comes twice. -/
theorem expand_eq_error (h : expand t examples features checks = .error fault) :
    (∃ check ∈ checks, check.command = [] ∧ fault = .expansion (.commandEmpty check.id)) ∨
      ∃ id, (idsOf examples features checks).Duplicate id ∧ fault = .expansion (.idRepeated id) := by
  unfold expand at h
  cases hf : checks.mapM checkTask with
  | error other =>
      have hfails : FailsOnly (fun fault => ∃ check ∈ checks, check.command = [] ∧
          fault = .expansion (.commandEmpty check.id)) (checks.mapM checkTask) :=
        .mapM fun check hm => (checkTask_failsOnly check).mono fun _ he => ⟨check, hm, he⟩
      rw [hf] at h
      cases h
      exact .inl (hfails _ hf)
  | ok fixed =>
      rw [hf] at h
      dsimp only [bind, Except.bind] at h
      split at h
      · next id hid =>
          cases h
          have hd := (duplicate_of_firstRepeated hid).resolve_right fun hs => List.not_mem_nil hs.1
          rw [map_id_queue hf] at hd
          exact .inr ⟨id, hd, rfl⟩
      · cases h

theorem expand_eq_error_iff :
    (∃ fault, expand t examples features checks = .error fault) ↔
      (∃ check ∈ checks, check.command = []) ∨ ¬(idsOf examples features checks).Nodup := by
  constructor
  · rintro ⟨fault, h⟩
    rcases expand_eq_error h with ⟨check, hm, hcommand, -⟩ | ⟨id, hd, -⟩
    · exact .inl ⟨check, hm, hcommand⟩
    · exact .inr hd.not_nodup
  · intro h
    cases he : expand t examples features checks with
    | error fault => exact ⟨fault, rfl⟩
    | ok tasks =>
        obtain ⟨fixed, hf, rfl, hnodup⟩ := expand_eq_ok_iff.1 he
        rw [map_id_queue hf] at hnodup
        rcases h with ⟨check, hm, hcommand⟩ | hrepeated
        · -- a check without a command has no task
          obtain ⟨task, -, htask⟩ := exists_of_mem_of_mapM hf hm
          have hperforms := checkTask_eq_ok htask
          exact absurd (hperforms.command.trans hcommand) hperforms.ne_nil
        · exact absurd hnodup hrepeated

/-! ## Stages along a queue -/

theorem map_stage_queue (hf : checks.mapM checkTask = .ok fixed) :
    (examples.map (exampleTask t) ++ features.map (testTask t) ++ fixed).map Task.stage =
      List.replicate examples.length .examples ++ List.replicate features.length .tests ++
        checks.map FixedCheck.stage := by
  have hfixed : fixed.map Task.stage = checks.map FixedCheck.stage := by
    rw [mapM_eq_ok_iff] at hf
    induction hf with
    | nil => rfl
    | cons htask _ ih => rw [List.map_cons, List.map_cons, ih, (checkTask_eq_ok htask).stage]
  have hexamples : (examples.map (exampleTask t)).map Task.stage =
      List.replicate examples.length .examples := by
    rw [List.map_map]
    exact List.map_const' ..
  have hfeatures : (features.map (testTask t)).map Task.stage =
      List.replicate features.length .tests := by
    rw [List.map_map]
    exact List.map_const' ..
  rw [List.map_append, List.map_append, hexamples, hfeatures, hfixed]

/-- A relation between stages holds along a queue when it holds between the kinds of tasks and along the
fixed checks. -/
theorem pairwise_stage {R : Stage → Stage → Prop} (h : expand t examples features checks = .ok tasks)
    (hexamples : R .examples .examples) (htests : R .tests .tests) (hkinds : R .examples .tests)
    (hbefore : ∀ check ∈ checks, R .examples check.stage ∧ R .tests check.stage)
    (hchecks : (checks.map FixedCheck.stage).Pairwise R) :
    tasks.Pairwise fun earlier later => R earlier.stage later.stage := by
  obtain ⟨fixed, hf, rfl, -⟩ := expand_eq_ok_iff.1 h
  rw [← List.pairwise_map, map_stage_queue hf, List.pairwise_append, List.pairwise_append]
  refine ⟨⟨?_, ?_, ?_⟩, hchecks, ?_⟩
  · exact List.pairwise_replicate.2 (.inr hexamples)
  · exact List.pairwise_replicate.2 (.inr htests)
  · intro a ha b hb
    rw [List.eq_of_mem_replicate ha, List.eq_of_mem_replicate hb]
    exact hkinds
  · intro a ha b hb
    obtain ⟨check, hm, rfl⟩ := List.mem_map.1 hb
    rcases List.mem_append.1 ha with ha | ha
    · rw [List.eq_of_mem_replicate ha]
      exact (hbefore check hm).1
    · rw [List.eq_of_mem_replicate ha]
      exact (hbefore check hm).2

/-- The fixed checks of a crate without declarations stand in the order of the stages. -/
theorem pairwise_position_defaults (other : Toolchain) :
    ((FixedCheck.defaults other).map FixedCheck.stage).Pairwise (·.position ≤ ·.position) := by
  change [Stage.lint, .docs, .msrv, .publish].Pairwise (·.position ≤ ·.position)
  decide

theorem position_le_of_isDiscovered {stage : Stage} (h : stage.isDiscovered = false) :
    Stage.examples.position ≤ stage.position ∧ Stage.tests.position ≤ stage.position := by
  revert h
  cases stage <;> decide

/-! ## The queue -/

/-- A queue has one task for each example, then one for each combination, then one for each fixed
check. -/
structure LaysOut (t : Toolchain) (examples : List String) (features : List FeatureSet)
    (checks : List FixedCheck) (tasks : List Task) : Prop where
  groups : ∃ runs tests fixed, tasks = runs ++ tests ++ fixed ∧
    List.Forall₂ (RunsExample t) examples runs ∧ List.Forall₂ (TestsFlags t) features tests ∧
    List.Forall₂ PerformsCheck checks fixed
  distinct : (tasks.map Task.id).Nodup
  /-- Behind fixed checks of other stages there are no tests and no examples, and behind tests there are
  no examples. -/
  kinds : (∀ check ∈ checks, check.stage.isDiscovered = false) →
    tasks.Pairwise fun earlier later => (earlier.stage = .tests → later.stage ≠ .examples) ∧
      (earlier.stage.isDiscovered = false → later.stage.isDiscovered = false)
  /-- With checks of a crate without declarations, tasks stand in the order of the stages. -/
  stages : ∀ other, checks.Sublist (FixedCheck.defaults other) →
    tasks.Pairwise fun earlier later => earlier.stage.position ≤ later.stage.position

theorem laysOut_of_expand (h : expand t examples features checks = .ok tasks) :
    LaysOut t examples features checks tasks := by
  constructor
  · obtain ⟨fixed, hf, htasks, -⟩ := expand_eq_ok_iff.1 h
    rw [mapM_eq_ok_iff] at hf
    refine ⟨_, _, fixed, htasks, ?_, ?_, hf.imp fun _ _ => checkTask_eq_ok⟩
    · rw [List.forall₂_map_right_iff, List.forall₂_same]
      intro name _
      exact exampleTask_runsExample t name
    · rw [List.forall₂_map_right_iff, List.forall₂_same]
      intro combination _
      exact testTask_testsFlags t combination
  · obtain ⟨fixed, -, -, hnodup⟩ := expand_eq_ok_iff.1 h
    exact hnodup
  · intro hchecks
    have hstage {a b : Stage} (hb : b.isDiscovered = false) :
        (a = .tests → b ≠ .examples) ∧ (a.isDiscovered = false → b.isDiscovered = false) := by
      refine ⟨?_, fun _ => hb⟩
      rintro - rfl
      cases hb
    apply pairwise_stage (R := fun a b => (a = .tests → b ≠ .examples) ∧
      (a.isDiscovered = false → b.isDiscovered = false)) h
    · decide
    · decide
    · decide
    · intro check hm
      exact ⟨hstage (hchecks check hm), hstage (hchecks check hm)⟩
    · rw [List.pairwise_iff_forall_sublist]
      intro a b hab
      have hb : b ∈ checks.map FixedCheck.stage := hab.subset (by simp)
      obtain ⟨check, hm, rfl⟩ := List.mem_map.1 hb
      exact hstage (hchecks check hm)
  · intro other hsublist
    apply pairwise_stage (R := fun a b => a.position ≤ b.position) h
    · exact Nat.le_refl _
    · exact Nat.le_refl _
    · decide
    · intro check hm
      have hother := FixedCheck.isDiscovered_of_mem_defaults check (hsublist.subset hm)
      exact position_le_of_isDiscovered hother
    · exact (pairwise_position_defaults other).sublist (hsublist.map FixedCheck.stage)

/-- What becomes of examples, combinations and fixed checks. -/
structure OrdersTasks (t : Toolchain) (examples : List String) (features : List FeatureSet)
    (checks : List FixedCheck) : Prop where
  refused_iff : (∃ fault, expand t examples features checks = .error fault) ↔
    (∃ check ∈ checks, check.command = []) ∨ ¬(idsOf examples features checks).Nodup
  /-- Nothing else is refused, and the fault names what is. -/
  culprit : ∀ fault, expand t examples features checks = .error fault →
    (∃ check ∈ checks, check.command = [] ∧ fault = .expansion (.commandEmpty check.id)) ∨
      ∃ id, (idsOf examples features checks).Duplicate id ∧ fault = .expansion (.idRepeated id)
  laidOut : ∀ tasks, expand t examples features checks = .ok tasks →
    LaysOut t examples features checks tasks

/-- Examples, combinations and fixed checks make a queue in this order, unless a command is missing or an
id comes twice. -/
theorem expand_ordersTasks (t : Toolchain) (examples : List String) (features : List FeatureSet)
    (checks : List FixedCheck) : OrdersTasks t examples features checks where
  refused_iff := expand_eq_error_iff
  culprit _ := expand_eq_error
  laidOut _ := laysOut_of_expand

/-- A fixed check may not take the id of an example. -/
example :
    let check : FixedCheck := ⟨"example:demo", [.text "true"], .advisory, .lint, "", []⟩
    (match expand .plain ["demo"] [.of .empty] [check] with
      | .error fault => some fault.message
      | .ok _ => none) = some "Duplicate task id: 'example:demo'" := by
  decide +kernel

end Plan

end Greenlight
