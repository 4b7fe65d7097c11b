import Greenlight.Discovery.Features
import Greenlight.Proofs.Discovery.Selection
import Greenlight.Proofs.Failing
import Mathlib.Data.List.Nodup

/-! # Combinations to test

A policy that fits the flags of a crate gives its combinations, each of them once and under its own
name. -/

namespace Greenlight.Discovery

variable {known : List String} {policy : FeaturePolicy} {sets : List FeatureSet}

theorem featureSets_eq_ok_iff :
    featureSets known policy = .ok sets ↔
      (strangers known policy).isEmpty = true ∧
        (∀ flags ∈ candidates known policy, checkCandidate known policy flags = .ok ()) ∧
        sets = (candidates known policy).eraseDups.map FeatureSet.of := by
  unfold featureSets
  dsimp only
  cases hs : (strangers known policy).isEmpty with
  | false => simp [bind, Except.bind]
  | true =>
    simp only [Bool.not_true, Bool.false_eq_true, if_false, then_eq_ok_iff, forM_eq_ok_iff,
      true_and]
    refine and_congr_right fun _ => ?_
    simp only [pure, Except.pure, Except.ok.injEq, eq_comm]

/-- Each combination has its own name. -/
theorem name_of_featureSets (h : featureSets known policy = .ok sets) :
    ∀ set ∈ sets, set = FeatureSet.of set.flags := by
  obtain ⟨-, -, rfl⟩ := featureSets_eq_ok_iff.1 h
  intro set hm
  obtain ⟨flags, -, rfl⟩ := List.mem_map.1 hm
  rfl

/-- No combination comes twice. -/
theorem nodup_of_featureSets (h : featureSets known policy = .ok sets) : sets.Nodup := by
  obtain ⟨-, -, rfl⟩ := featureSets_eq_ok_iff.1 h
  refine List.Nodup.of_map FeatureSet.flags ?_
  rw [List.map_map]
  have hid : (candidates known policy).eraseDups.map (FeatureSet.flags ∘ FeatureSet.of) =
      (candidates known policy).eraseDups := List.map_id _
  rw [hid]
  exact nodup_eraseDups _

end Greenlight.Discovery
