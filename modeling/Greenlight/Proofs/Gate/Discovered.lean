import Greenlight.Proofs.Discovery.Combinations
import Greenlight.Proofs.FlagSet.Names
import Greenlight.Proofs.Gate.Narrowing
import Greenlight.Proofs.Plan.Ids

/-! # Plans of discovered targets

Without declared checks a plan consists of what is found in the crate, and of fixed checks of its own.
Main statement: it is refused only for two combinations of flags that resemble each other. -/

namespace Greenlight.Settings

variable {s : Settings} {t : FileTree} {skipped : List Stage} {names : List String}
  {sets : List FeatureSet}

/-! ## What is found -/

/-- No example is planned twice. -/
theorem nodup_of_planExamples (h : s.planExamples t skipped = .ok names) : names.Nodup := by
  unfold planExamples at h
  split at h
  · cases h
    exact List.nodup_nil
  · obtain ⟨found, hfound, rfl⟩ := map_eq_ok_iff.1 h
    unfold Discovery.examples at hfound
    simp only [bind_eq_ok_iff] at hfound
    obtain ⟨_, -, manifest, -, offered, -, hselected⟩ := hfound
    cases hselected
    exact Discovery.nodup_map_name_selectExamples _ _

/-- No combination is planned twice, and each has its own name. -/
theorem nodup_of_planFeatures (h : s.planFeatures t skipped = .ok sets) :
    sets.Nodup ∧ ∀ set ∈ sets, set = FeatureSet.of set.flags := by
  unfold planFeatures at h
  split at h
  · cases h
    exact ⟨List.nodup_nil, List.forall_mem_nil _⟩
  · obtain ⟨known, -, hsets⟩ := bind_eq_ok_iff.1 h
    exact ⟨Discovery.nodup_of_featureSets hsets, Discovery.name_of_featureSets hsets⟩

theorem name_eq_iff_of_planFeatures (h : s.planFeatures t skipped = .ok sets) {a b : FeatureSet}
    (ha : a ∈ sets) (hb : b ∈ sets) :
    a.name = b.name ↔ a.flags = b.flags ∨ a.flags.Resembles b.flags := by
  obtain ⟨-, hown⟩ := nodup_of_planFeatures h
  rw [hown a ha, hown b hb]
  exact FeatureSet.nameOf_eq_iff

/-- Two places of one name hold different combinations that resemble each other. -/
theorem resembles_of_planFeatures (h : s.planFeatures t skipped = .ok sets) {a b : FeatureSet}
    (hab : [a, b].Sublist sets) (hn : a.name = b.name) :
    a ∈ sets ∧ b ∈ sets ∧ a.flags ≠ b.flags ∧ a.flags.Resembles b.flags := by
  obtain ⟨hsets, hown⟩ := nodup_of_planFeatures h
  have ha : a ∈ sets := hab.subset List.mem_cons_self
  have hb : b ∈ sets := hab.subset (List.mem_cons_of_mem a List.mem_cons_self)
  have hne : a.flags ≠ b.flags := by
    intro hflags
    have heq : a = b := by rw [hown a ha, hown b hb, hflags]
    have hpair := hsets.sublist hab
    simp [heq] at hpair
  exact ⟨ha, hb, hne, ((name_eq_iff_of_planFeatures h ha hb).1 hn).resolve_left hne⟩

theorem skippedStages_eq_nil (h : s.skippedNames = []) : s.skippedStages = .ok [] := by
  rw [skippedStages, h]
  rfl

/-- The plan of a crate without declared checks is that of what is found and of the fixed checks. -/
theorem plan_eq_expand (hc : s.checks = none) (hs : s.skippedStages = .ok skipped)
    (he : s.planExamples t skipped = .ok names) (hf : s.planFeatures t skipped = .ok sets) :
    ∃ checks, checks.Sublist (FixedCheck.defaults s.tools) ∧
      s.plan t = Plan.expand s.tools names sets checks := by
  have hchecks : s.planChecks skipped =
      .ok ((FixedCheck.defaults s.tools).filter fun check => !skipped.contains check.stage) := by
    rw [planChecks_eq, fixedChecks, hc]
    rfl
  refine ⟨(FixedCheck.defaults s.tools).filter fun check => !skipped.contains check.stage,
    List.filter_sublist, ?_⟩
  simp only [plan, hs, he, hf, hchecks, bind, Except.bind]

/-- Without declared checks, a plan fails only for two combinations that resemble each other. -/
theorem plan_ok_or_refused (hc : s.checks = none) (hs : s.skippedStages = .ok skipped)
    (he : s.planExamples t skipped = .ok names) (hf : s.planFeatures t skipped = .ok sets) :
    (∃ tasks, s.plan t = .ok tasks) ∨
      ∃ a ∈ sets, ∃ b ∈ sets, a.flags ≠ b.flags ∧ a.flags.Resembles b.flags ∧
        s.plan t = .error (.expansion (.idRepeated ("test:" ++ a.name))) := by
  obtain ⟨checks, hchecks, hplan⟩ := plan_eq_expand hc hs he hf
  rw [hplan]
  rcases Plan.expand_defaults (nodup_of_planExamples he) hchecks with hok | ⟨a, b, hab, hn, herror⟩
  · exact .inl hok
  · obtain ⟨ha, hb, hne, hr⟩ := resembles_of_planFeatures hf hab hn
    exact .inr ⟨a, ha, b, hb, hne, hr, herror⟩

/-- A plan is not made if two of its combinations have one name. -/
theorem flags_eq_of_plan_eq_ok {tasks : List Task} (hc : s.checks = none)
    (hs : s.skippedStages = .ok skipped) (he : s.planExamples t skipped = .ok names)
    (hf : s.planFeatures t skipped = .ok sets) (ht : s.plan t = .ok tasks) {a b : FeatureSet}
    (ha : a ∈ sets) (hb : b ∈ sets) (hn : a.name = b.name) : a.flags = b.flags := by
  obtain ⟨checks, -, hplan⟩ := plan_eq_expand hc hs he hf
  rw [hplan] at ht
  have hids := Plan.nodup_testIds_of_expand ht
  exact congrArg FeatureSet.flags (List.inj_on_of_nodup_map hids ha hb (by simp [hn]))

/-! ## Plans -/

/-- The plan of what is found in a crate. It is made unless two different combinations resemble each
other, as no plain ones do; then the id that they share is refused. -/
structure PlansDiscovered (s : Settings) (t : FileTree) (sets : List FeatureSet) : Prop where
  name_eq_iff : ∀ a ∈ sets, ∀ b ∈ sets,
    a.name = b.name ↔ a.flags = b.flags ∨ a.flags.Resembles b.flags
  planned_iff : (∃ tasks, s.plan t = .ok tasks) ↔
    ∀ a ∈ sets, ∀ b ∈ sets, a.flags ≠ b.flags → ¬a.flags.Resembles b.flags
  planned_of_plain : (∀ set ∈ sets, set.flags.IsPlain) → ∃ tasks, s.plan t = .ok tasks
  refused : ∀ fault, s.plan t = .error fault →
    ∃ a ∈ sets, ∃ b ∈ sets, a.flags ≠ b.flags ∧ a.flags.Resembles b.flags ∧
      fault = .expansion (.idRepeated ("test:" ++ a.name))

theorem plan_discovered (hc : s.checks = none) (hs : s.skippedStages = .ok skipped)
    (he : s.planExamples t skipped = .ok names) (hf : s.planFeatures t skipped = .ok sets) :
    s.PlansDiscovered t sets := by
  have hplanned : (∃ tasks, s.plan t = .ok tasks) ↔
      ∀ a ∈ sets, ∀ b ∈ sets, a.flags ≠ b.flags → ¬a.flags.Resembles b.flags := by
    constructor
    · rintro ⟨tasks, ht⟩ a ha b hb hne hr
      have hn : a.name = b.name := (name_eq_iff_of_planFeatures hf ha hb).2 (.inr hr)
      exact hne (flags_eq_of_plan_eq_ok hc hs he hf ht ha hb hn)
    · intro hapart
      rcases plan_ok_or_refused hc hs he hf with hok | ⟨a, ha, b, hb, hne, hr, -⟩
      · exact hok
      · exact absurd hr (hapart a ha b hb hne)
  constructor
  · exact fun a ha b hb => name_eq_iff_of_planFeatures hf ha hb
  · exact hplanned
  · intro hplain
    rw [hplanned]
    exact fun a ha b hb hne hr => hne (hr.eq_of_isPlain (hplain a ha) (hplain b hb))
  · intro fault hfault
    rcases plan_ok_or_refused hc hs he hf with ⟨tasks, hok⟩ | ⟨a, ha, b, hb, hne, hr, herror⟩
    · rw [hok] at hfault
      cases hfault
    · rw [herror] at hfault
      cases hfault
      exact ⟨a, ha, b, hb, hne, hr, rfl⟩

/-- A flag of a name of its own is tested beside the combination without flags. -/
theorem plan_discovered_tls :
    let t := (FileTree.empty.plant "Cargo.toml" (.file "[features]\ntls = []\n".toUTF8.toList false)).plant
      "examples/demo.rs" (.file [] false)
    ∃ s sets, load Yaml.read t [] none none = .ok s ∧ s.planExamples t [] = .ok ["demo"] ∧
      s.planFeatures t [] = .ok sets ∧ sets.map (·.flags.names) = [[], ["tls"]] ∧
      s.PlansDiscovered t sets := by
  intro t
  have hload : (load Yaml.read t [] none none).toOption.map (fun s =>
      (s.checks.isNone, s.skippedNames, (s.planExamples t []).toOption,
        (s.planFeatures t []).toOption.map (·.map (·.flags.names)))) =
      some (true, [], some ["demo"], some [[], ["tls"]]) := by
    decide +kernel
  obtain ⟨s, hs, he⟩ := exists_ok_of_toOption hload
  simp only [Prod.mk.injEq, Option.isNone_iff_eq_none, toOption_eq_some_iff] at he
  obtain ⟨hchecks, hskipped, hexamples, hfeatures⟩ := he
  obtain ⟨sets, hsets, hflags⟩ := exists_ok_of_toOption hfeatures
  have hstages : s.skippedStages = .ok [] := skippedStages_eq_nil hskipped
  exact ⟨s, sets, hs, hexamples, hsets, hflags, plan_discovered hchecks hstages hexamples hsets⟩

/-- A flag called `none` is tested under the name of the combination without flags. What is found in
the crate is refused for it. -/
theorem plan_refused_flagNone :
    let t := FileTree.empty.plant "Cargo.toml" (.file "[features]\nnone = []\n".toUTF8.toList false)
    let sets := [FeatureSet.of .empty, FeatureSet.of (FlagSet.ofList ["none"])]
    ∃ s, load Yaml.read t [] none none = .ok s ∧ s.checks = none ∧ s.skippedStages = .ok [] ∧
      s.planExamples t [] = .ok [] ∧ s.planFeatures t [] = .ok sets ∧
      sets.map (·.name) = ["none", "none"] ∧
      s.plan t = .error (.expansion (.idRepeated "test:none")) := by
  intro t sets
  have hload : (load Yaml.read t [] none none).toOption.map (fun s =>
      (s.checks.isNone, s.skippedNames, (s.planExamples t []).toOption, (s.planFeatures t []).toOption)) =
      some (true, [], some [], some sets) := by
    decide +kernel
  obtain ⟨s, hs, he⟩ := exists_ok_of_toOption hload
  simp only [Prod.mk.injEq, Option.isNone_iff_eq_none, toOption_eq_some_iff] at he
  obtain ⟨hchecks, hskipped, hexamples, hsets⟩ := he
  have hstages : s.skippedStages = .ok [] := skippedStages_eq_nil hskipped
  have hnames : sets.map (·.name) = ["none", "none"] := rfl
  refine ⟨s, hs, hchecks, hstages, hexamples, hsets, hnames, ?_⟩
  rcases plan_ok_or_refused hchecks hstages hexamples hsets with
    ⟨tasks, hok⟩ | ⟨a, ha, -, -, -, -, herror⟩
  · -- the two combinations differ in their flags but not in their names
    have hempty : FeatureSet.of .empty ∈ sets := List.mem_cons_self
    have hflag : FeatureSet.of (FlagSet.ofList ["none"]) ∈ sets :=
      List.mem_cons_of_mem _ List.mem_cons_self
    have hflags := flags_eq_of_plan_eq_ok hchecks hstages hexamples hsets hok hempty hflag rfl
    exact absurd hflags (by decide)
  · have hname : a.name ∈ sets.map (·.name) := List.mem_map_of_mem ha
    have hnone : a.name = "none" := by simpa [hnames] using hname
    rw [herror, hnone]
    rfl

end Greenlight.Settings
