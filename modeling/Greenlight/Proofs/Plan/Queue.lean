import Greenlight.Plan
import Greenlight.Proofs.Failing

/-! # The queue of a plan

A queue is made when every fixed check has a command and no two tasks have the same id. Main statement:
without some examples, combinations or checks the rest still makes a queue. -/

namespace Greenlight

namespace Plan

/-! ## Ids -/

theorem firstRepeated_eq_none_iff (seen ids : List String) :
    firstRepeated seen ids = none ↔ ids.Nodup ∧ ∀ id ∈ ids, id ∉ seen := by
  induction ids generalizing seen with
  | nil => simp [firstRepeated]
  | cons id rest ih =>
    unfold firstRepeated
    by_cases hs : id ∈ seen
    · simp [hs]
    · simp only [List.contains_eq_mem, hs, decide_false, Bool.false_eq_true, if_false, ih,
        List.nodup_cons, List.mem_cons, forall_eq_or_imp, not_or, not_false_eq_true, true_and]
      constructor
      · rintro ⟨hn, hr⟩
        exact ⟨⟨fun hm => (hr id hm).1 rfl, hn⟩, fun other hm => (hr other hm).2⟩
      · rintro ⟨⟨hi, hn⟩, hr⟩
        exact ⟨hn, fun other hm => ⟨fun he => hi (he ▸ hm), hr other hm⟩⟩

/-! ## Queues -/

theorem expand_eq_ok_iff {t : Toolchain} {examples : List String} {features : List FeatureSet}
    {checks : List FixedCheck} {tasks : List Task} :
    expand t examples features checks = .ok tasks ↔
      ∃ fixed, checks.mapM checkTask = .ok fixed ∧
        tasks = examples.map (exampleTask t) ++ features.map (testTask t) ++ fixed ∧
        (tasks.map Task.id).Nodup := by
  unfold expand
  rw [bind_eq_ok_iff]
  refine exists_congr fun fixed => and_congr_right fun _ => ?_
  have hn := firstRepeated_eq_none_iff []
    ((examples.map (exampleTask t) ++ features.map (testTask t) ++ fixed).map Task.id)
  simp only [List.not_mem_nil, not_false_eq_true, implies_true, and_true] at hn
  dsimp only
  split
  · next id hid =>
      simp only [hid, reduceCtorEq, false_iff] at hn
      simp only [reduceCtorEq, false_iff, not_and]
      rintro rfl
      exact hn
  · next hnone =>
      simp only [pure, Except.pure, Except.ok.injEq, eq_comm (a := tasks)]
      constructor
      · rintro rfl
        exact ⟨rfl, hn.1 hnone⟩
      · exact And.left

/-- The task of a check has its stage. -/
theorem stage_of_checkTask {check : FixedCheck} {task : Task} (h : checkTask check = .ok task) :
    task.stage = check.stage := by
  unfold checkTask at h
  split at h
  · cases h
  · cases h
    rfl

/-- Without some examples, combinations or checks, the queue is the same without their tasks. -/
theorem expand_filter {t : Toolchain} {examples : List String} {features : List FeatureSet}
    {checks : List FixedCheck} {tasks : List Task} {keep : Task → Bool}
    {keepsExample : String → Bool} {keepsFeatures : FeatureSet → Bool} {keepsCheck : FixedCheck → Bool}
    (h : expand t examples features checks = .ok tasks)
    (he : ∀ name ∈ examples, keep (exampleTask t name) = keepsExample name)
    (hf : ∀ combination ∈ features, keep (testTask t combination) = keepsFeatures combination)
    (hc : ∀ check ∈ checks, ∀ task, checkTask check = .ok task → keep task = keepsCheck check) :
    expand t (examples.filter keepsExample) (features.filter keepsFeatures)
      (checks.filter keepsCheck) = .ok (tasks.filter keep) := by
  obtain ⟨fixed, hfixed, rfl, hn⟩ := expand_eq_ok_iff.1 h
  refine expand_eq_ok_iff.2 ⟨fixed.filter keep, mapM_filter hfixed hc, ?_, ?_⟩
  · have hexamples : (examples.map (exampleTask t)).filter keep =
        (examples.filter keepsExample).map (exampleTask t) := by
      rw [List.filter_map]
      exact congrArg _ (List.filter_congr he)
    have hfeatures : (features.map (testTask t)).filter keep =
        (features.filter keepsFeatures).map (testTask t) := by
      rw [List.filter_map]
      exact congrArg _ (List.filter_congr hf)
    rw [List.filter_append, List.filter_append, hexamples, hfeatures]
  · exact hn.sublist (List.filter_sublist.map Task.id)

end Plan

end Greenlight
