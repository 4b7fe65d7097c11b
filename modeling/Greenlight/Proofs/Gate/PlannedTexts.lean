import Greenlight.Proofs.Gate.Narrowing
import Greenlight.Proofs.Plan.Printed
import Greenlight.Proofs.Settings.Fields

/-! # Plans of texts

Ids, descriptions and environments of planned tasks are texts, and commands are rows of them, except that
a package from the configuration file is handed on as it stands. Main statement: a plan is printed, and
its tasks are handed to the runner, unless a package that is no text is part of a command. -/

namespace Greenlight

/-! ## Parts of a command -/

theorem Arg.foreign_not_mem_ofTexts (texts : List String) : Arg.foreign ∉ ofTexts texts := by
  simp [ofTexts]

theorem Arg.texts?_eq_none_iff {command : List Arg} : texts? command = none ↔ .foreign ∈ command := by
  induction command with
  | nil => simp [texts?]
  | cons arg rest ih => cases arg <;> simp [texts?, ih]

namespace Task

variable {task : Task}

theorem isRunnable_iff : task.IsRunnable ↔ .foreign ∉ task.command := by
  rw [← Arg.texts?_eq_none_iff]
  unfold IsRunnable commandTexts
  cases Arg.texts? task.command <;> simp

theorem commandTexts_of_not_isRunnable (h : ¬task.IsRunnable) :
    task.commandTexts = .error .argumentNotText := by
  cases hc : task.commandTexts with
  | error fault => rw [commandTexts_eq_error hc]
  | ok command => exact absurd ⟨command, hc⟩ h

end Task

/-! ## Executed tasks -/

namespace Campaign

variable {σ : Type} {task : Task}

/-- A task whose command holds a part that is no text is refused before the runner is asked. -/
theorem execute_of_not_isRunnable (h : ¬task.IsRunnable) (setup : Setup) (sur : Surroundings σ)
    (place : Option Int) (watchesStop : Bool) (c : Campaign σ) :
    c.execute setup sur task place watchesStop = (.error .argumentNotText, c) := by
  rw [execute, Task.commandTexts_of_not_isRunnable h]

/-- The runner is asked for the texts of a command. -/
theorem asked_execute_of_isRunnable (h : task.IsRunnable) (setup : Setup) (sur : Surroundings σ)
    (place : Option Int) (watchesStop : Bool) (c : Campaign σ) :
    ∃ asked, (c.execute setup sur task place watchesStop).2.asked = c.asked ++ [asked] ∧
      Arg.ofTexts asked.request.command = task.command := by
  obtain ⟨command, hc⟩ := h
  obtain ⟨asked, _, hr, -, hg, -⟩ := execute_grows setup sur hc place watchesStop c
  refine ⟨asked, hg.asked, ?_⟩
  rw [hr]
  exact Task.ofTexts_of_commandTexts hc

end Campaign

/-! ## Planned tasks -/

/-- The stages whose fixed checks are limited to a package. -/
def Stage.TakesPackage (stage : Stage) : Prop := stage = .docs ∨ stage = .publish

namespace FixedCheck

variable {t : Toolchain} {check : FixedCheck}

/-- A fixed check of a crate without declarations takes on the package of the toolchain as it stands. -/
theorem foreign_mem_command_of_mem_defaults (h : check ∈ defaults t) :
    .foreign ∈ check.command ↔ t.package = some .foreign ∧ check.stage.TakesPackage := by
  have hpackage : .foreign ∈ t.packageArgs ↔ t.package = some .foreign := by
    unfold Toolchain.packageArgs
    cases t.package <;> simp [eq_comm]
  simp only [defaults, List.mem_cons, List.not_mem_nil, or_false] at h
  rcases h with rfl | rfl | rfl | rfl <;>
    simp [Toolchain.command, Arg.foreign_not_mem_ofTexts, Stage.TakesPackage, hpackage]

theorem foreign_not_mem_expandCommand (t : Toolchain) (parts : List String) :
    .foreign ∉ expandCommand t parts := by
  unfold expandCommand
  split
  · exact List.not_mem_nil
  · split
    · simp [Toolchain.command, Arg.foreign_not_mem_ofTexts]
    · exact Arg.foreign_not_mem_ofTexts _

theorem foreign_not_mem_of_readCommand {id : String} {value : Value} {command : List Arg}
    (h : readCommand t id value = .ok command) : .foreign ∉ command := by
  unfold readCommand at h
  extract_lets expanded at h
  have hexpanded (parts : List String) (h : expanded parts = .ok command) : .foreign ∉ command := by
    simp only [expanded] at h
    split at h
    · cases h
    · cases h
      exact foreign_not_mem_expandCommand t parts
  split at h
  · obtain ⟨parts, -, h⟩ := bind_eq_ok_iff.1 h
    exact hexpanded parts h
  · split at h
    · obtain ⟨parts, -, h⟩ := bind_eq_ok_iff.1 h
      exact hexpanded parts h
    · cases h

end FixedCheck

namespace Settings

variable {s : Settings} {t : FileTree} {skipped : List Stage} {checks : List FixedCheck}
  {tasks : List Task}

/-- The package is no text, and no checks are declared in place of the fixed ones that take it on. -/
def HandsOnPackage (s : Settings) : Prop := s.tools.package = some .foreign ∧ s.checks = none

theorem foreign_mem_planChecks (h : s.planChecks skipped = .ok checks) {check : FixedCheck}
    (hm : check ∈ checks) :
    .foreign ∈ check.command ↔ s.HandsOnPackage ∧ check.stage.TakesPackage := by
  rw [planChecks_eq, map_eq_ok_iff] at h
  obtain ⟨all, hall, rfl⟩ := h
  have hm := List.mem_of_mem_filter hm
  unfold fixedChecks at hall
  unfold HandsOnPackage
  split at hall
  · next declared hc =>
      obtain ⟨_, _, hread⟩ := FixedCheck.exists_read_of_mem hall hm
      obtain ⟨_, _, -, -, hcommand, -⟩ := FixedCheck.exists_of_read hread
      simp [hc, FixedCheck.foreign_not_mem_of_readCommand hcommand]
  · next hc =>
      cases hall
      simp [hc, FixedCheck.foreign_mem_command_of_mem_defaults hm]

/-- A planned task is that of an example, of a combination or of a fixed check. -/
theorem of_mem_plan (h : s.plan t = .ok tasks) {task : Task} (hm : task ∈ tasks) :
    (∃ name, task = Plan.exampleTask s.tools name) ∨
      (∃ features, task = Plan.testTask s.tools features) ∨
      ∃ skipped checks check, s.planChecks skipped = .ok checks ∧ check ∈ checks ∧
        Plan.checkTask check = .ok task := by
  simp only [plan, bind_eq_ok_iff] at h
  obtain ⟨skipped, -, examples, -, features, -, checks, hchecks, hexpand⟩ := h
  obtain ⟨fixed, hfixed, rfl, -⟩ := Plan.expand_eq_ok_iff.1 hexpand
  simp only [List.mem_append, List.mem_map] at hm
  rcases hm with (⟨name, -, rfl⟩ | ⟨combination, -, rfl⟩) | hm
  · exact .inl ⟨name, rfl⟩
  · exact .inr (.inl ⟨combination, rfl⟩)
  · obtain ⟨check, hc, htask⟩ := exists_of_mem_mapM hfixed hm
    exact .inr (.inr ⟨skipped, checks, check, hchecks, hc, htask⟩)

theorem command_of_checkTask {check : FixedCheck} {task : Task} (h : Plan.checkTask check = .ok task) :
    task.command = check.command ∧ task.command ≠ [] := by
  unfold Plan.checkTask at h
  split at h
  · cases h
  · next hne =>
      cases h
      exact ⟨rfl, fun he => hne (List.isEmpty_iff.2 he)⟩

theorem command_ne_nil_of_plan (h : s.plan t = .ok tasks) {task : Task} (hm : task ∈ tasks) :
    task.command ≠ [] := by
  rcases of_mem_plan h hm with ⟨name, rfl⟩ | ⟨features, rfl⟩ | ⟨_, _, _, -, -, htask⟩
  · simp [Plan.exampleTask, Toolchain.command, Arg.ofTexts]
  · simp [Plan.testTask, Toolchain.command, Arg.ofTexts]
  · exact (command_of_checkTask htask).2

/-- A planned command holds a part that is no text when it takes on such a package. -/
theorem foreign_mem_plan (h : s.plan t = .ok tasks) {task : Task} (hm : task ∈ tasks) :
    .foreign ∈ task.command ↔ s.HandsOnPackage ∧ task.stage.TakesPackage := by
  rcases of_mem_plan h hm with ⟨name, rfl⟩ | ⟨features, rfl⟩ | ⟨_, checks, check, hchecks, hc, htask⟩
  · simp [Plan.exampleTask, Toolchain.command, Arg.foreign_not_mem_ofTexts, Stage.TakesPackage]
  · simp [Plan.testTask, Toolchain.command, Arg.foreign_not_mem_ofTexts, Stage.TakesPackage]
  · rw [(command_of_checkTask htask).1, Plan.stage_of_checkTask htask, foreign_mem_planChecks hchecks hc]

/-! ## Packages from the file -/

/-- The file holds a package that is set and is no text, no variable takes its place, and no checks are
declared. -/
structure Origin.HandsOnPackage (o : Origin) : Prop where
  unset : o.environment.valueOf? "PACKAGE" = none
  package : ∃ v, Value.lookup o.file "package" = some v ∧ v.holds = true ∧ v.text? = none
  checks : ((Value.lookup o.file "static_tasks").getD .null).content = .datum .null

theorem readChecks_eq_none_iff {file : List (Datum × Value)} {checks : Option (List Value)}
    (h : readChecks file = .ok checks) :
    checks = none ↔ ((Value.lookup file "static_tasks").getD .null).content = .datum .null := by
  unfold readChecks at h
  split at h
  · next hc =>
      cases h
      exact iff_of_true rfl hc
  · next hc =>
      cases h
      rw [hc]
      exact iff_of_false nofun nofun
  · cases h

theorem exists_readPackage_iff {v : Value} :
    (∃ package, readPackage v = some package ∧ package.text? = none) ↔
      v.holds = true ∧ v.text? = none := by
  unfold readPackage
  split
  · next hv => simp [hv]
  · next hv => simp [hv]

/-- A package that is set and is no text can only come from the file. -/
theorem exists_readPackage_option_iff {o : Origin} :
    (∃ v, readPackage (o.option "PACKAGE" "package" .null) = some v ∧ v.text? = none) ↔
      o.environment.valueOf? "PACKAGE" = none ∧
        ∃ v, Value.lookup o.file "package" = some v ∧ v.holds = true ∧ v.text? = none := by
  rw [exists_readPackage_iff, Origin.option]
  cases o.environment.valueOf? "PACKAGE" with
  | some s =>
    exact iff_of_false (fun h => Option.some_ne_none s h.2) fun h => Option.some_ne_none s h.1
  | none =>
    cases Value.lookup o.file "package" with
    | none =>
      refine iff_of_false (fun h => Bool.false_ne_true h.1) ?_
      rintro ⟨-, v, hv, -⟩
      cases hv
    | some v => simp

theorem handsOnPackage_iff {o : Origin} {given : Option Path} (h : ofOrigin o given = .ok s) :
    s.HandsOnPackage ↔ o.HandsOnPackage := by
  have hpackage : readPackage (o.option "PACKAGE" "package" .null) = s.package :=
    reads_of_ofOrigin h .package
  have hchecks : readChecks o.file = .ok s.checks := reads_of_ofOrigin h .checks
  have harg (v : Value) : packageArg v = .foreign ↔ v.text? = none := by
    unfold packageArg
    cases v.text? <;> simp
  have hforeign : s.tools.package = some .foreign ↔ ∃ v, s.package = some v ∧ v.text? = none := by
    simp only [tools, Option.map_eq_some_iff, harg]
  rw [HandsOnPackage, hforeign, readChecks_eq_none_iff hchecks, ← hpackage, exists_readPackage_option_iff]
  constructor
  · rintro ⟨⟨hunset, hp⟩, hc⟩
    exact ⟨hunset, hp, hc⟩
  · rintro ⟨hunset, hp, hc⟩
    exact ⟨⟨hunset, hp⟩, hc⟩

/-- What is planned for settings from an origin. Ids, descriptions and environments are texts by their
types. -/
structure PlansTexts (o : Origin) (tasks : List Task) : Prop where
  commands : ∀ task ∈ tasks, task.command ≠ []
  isRunnable_iff : ∀ task ∈ tasks, task.IsRunnable ↔ ¬(o.HandsOnPackage ∧ task.stage.TakesPackage)
  printed_iff : (∃ lines, Plan.lines tasks = .ok lines) ↔ ∀ task ∈ tasks, task.IsRunnable
  /-- The runner is asked for the texts of a command. -/
  asked : ∀ task ∈ tasks, task.IsRunnable →
    ∀ {σ : Type} (setup : Setup) (sur : Surroundings σ) (place : Option Int) (watchesStop : Bool)
      (c : Campaign σ), ∃ asked,
        (c.execute setup sur task place watchesStop).2.asked = c.asked ++ [asked] ∧
          Arg.ofTexts asked.request.command = task.command
  /-- A command that holds anything else breaks off the printing, and its task is not executed. -/
  refused : ∀ task ∈ tasks, ¬task.IsRunnable → Plan.lines tasks = .error .argumentNotText ∧
    ∀ {σ : Type} (setup : Setup) (sur : Surroundings σ) (place : Option Int) (watchesStop : Bool)
      (c : Campaign σ), c.execute setup sur task place watchesStop = (.error .argumentNotText, c)

/-- Planned commands are rows of texts unless they take on a package of the file that is no text. -/
theorem plan_plansTexts {o : Origin} {given : Option Path} (hs : ofOrigin o given = .ok s)
    (h : s.plan t = .ok tasks) : PlansTexts o tasks where
  commands _ hm := command_ne_nil_of_plan h hm
  isRunnable_iff task hm := by
    rw [Task.isRunnable_iff, foreign_mem_plan h hm, handsOnPackage_iff hs]
  printed_iff := Plan.exists_lines_iff
  asked _ _ hr := Campaign.asked_execute_of_isRunnable hr
  refused _ hm hr := ⟨Plan.lines_of_not_isRunnable hm hr, Campaign.execute_of_not_isRunnable hr⟩

/-- A package that is a text is part of two commands, which are printed with it. -/
theorem plan_plansTexts_demo :
    let o : Origin := ⟨[], [(.text "package", .text "demo")]⟩
    ∃ s tasks lines, ofOrigin o none = .ok s ∧ s.plan .empty = .ok tasks ∧
      Plan.lines tasks = .ok lines ∧
      lines.getLast? = some
        "   5. publish [blocking] publish dry run: cargo publish -p demo --all-features --dry-run" ∧
      PlansTexts o tasks := by
  intro o
  have hload : (ofOrigin o none).toOption.map (fun s => (s.plan .empty).toOption.map fun tasks =>
      (Plan.lines tasks).toOption.map List.getLast?) =
      some (some (some (some
        "   5. publish [blocking] publish dry run: cargo publish -p demo --all-features --dry-run"))) := by
    decide +kernel
  obtain ⟨s, hs, hplan⟩ := exists_ok_of_toOption hload
  obtain ⟨tasks, ht, hprint⟩ := exists_ok_of_toOption hplan
  obtain ⟨lines, hl, hlast⟩ := exists_ok_of_toOption hprint
  exact ⟨s, tasks, lines, hs, ht, hl, hlast, plan_plansTexts hs ht⟩

end Settings

/-- A package that is a number is planned, and breaks off a run that only prints its plan. -/
theorem Gate.run_foreignPackage_letThrough :
    let t := FileTree.empty.plant "gate.yaml" (.file "package: 123\n".toUTF8.toList false)
    let o := { Options.none with configFile := some (.ofText "gate.yaml"), planOnly := true }
    ∃ s tasks, prepare Yaml.read o [] t = .ok (s, tasks) ∧ (∃ task ∈ tasks, .foreign ∈ task.command) ∧
      Plan.lines tasks = .error .argumentNotText ∧
      ∀ sur, (run Yaml.read sur o [] t).1 = .error .argumentNotText := by
  intro t o
  have hprepare : (prepare Yaml.read o [] t).toOption.map
      (fun (_, tasks) => tasks.any fun task => task.command.contains .foreign) = some true := by
    decide +kernel
  obtain ⟨⟨s, tasks⟩, h, hany⟩ := exists_ok_of_toOption hprepare
  obtain ⟨task, hm, hforeign⟩ := List.any_eq_true.1 hany
  have hforeign := List.contains_iff_mem.1 hforeign
  have hlines : Plan.lines tasks = .error .argumentNotText :=
    Plan.lines_of_not_isRunnable hm fun hr => Task.isRunnable_iff.1 hr hforeign
  refine ⟨s, tasks, h, ⟨task, hm, hforeign⟩, hlines, fun sur => ?_⟩
  unfold run
  rw [h]
  dsimp only
  rw [if_pos rfl, hlines]
  rfl

end Greenlight
