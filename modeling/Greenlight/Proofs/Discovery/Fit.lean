import Greenlight.Proofs.Discovery.Combinations
import Greenlight.Proofs.Discovery.Faults

/-! # Policies that fit

A policy fits the flags of a crate when it names no others and no combination holds two flags that exclude
each other. Main statement: combinations are selected exactly for policies that fit, and they are the
distinct candidates in the order in which these first come. -/

namespace Greenlight

/-! ## Sets of flags -/

namespace FlagSet

variable {s : FlagSet} {p : String → Bool} {flag : String}

theorem mem_filter : flag ∈ s.filter p ↔ flag ∈ s ∧ p flag = true :=
  List.mem_filter

theorem not_mem_empty : flag ∉ empty := List.not_mem_nil

theorem isEmpty_filter_iff : (s.filter p).isEmpty = true ↔ ∀ flag ∈ s, p flag = false := by
  rw [isEmpty, List.isEmpty_iff, filter, List.filter_eq_nil_iff]
  simp only [Bool.not_eq_true]
  rfl

/-- A set of at most one member. -/
theorem size_le_one_iff : s.size ≤ 1 ↔ ∀ a ∈ s, ∀ b ∈ s, a = b := by
  obtain ⟨names, hascending⟩ := s
  change names.length ≤ 1 ↔ ∀ a ∈ names, ∀ b ∈ names, a = b
  cases names with
  | nil => simp
  | cons first rest =>
    cases rest with
    | nil => simp
    | cons second more =>
      have hlt : first < second := (List.pairwise_cons.1 hascending).1 second List.mem_cons_self
      simp only [List.length_cons, Nat.reduceLeDiff, false_iff, not_forall]
      exact ⟨first, List.mem_cons_self, second, List.mem_cons_of_mem _ List.mem_cons_self,
        String.ne_of_lt hlt⟩

end FlagSet

namespace Discovery

variable {known others : List String} {policy changed : FeaturePolicy} {sets : List FeatureSet}
  {flags : FlagSet} {flag : String}

/-! ## What fits -/

/-- A combination holds known flags only, and no two flags of one group. -/
structure FitsCandidate (known : List String) (exclusive : List FlagSet) (flags : FlagSet) : Prop where
  known : ∀ flag ∈ flags, flag ∈ known
  exclusive : ∀ group ∈ exclusive, ∀ a b, a ∈ flags → a ∈ group → b ∈ flags → b ∈ group → a = b

/-- A policy fits the flags of a crate. -/
structure FeaturePolicy.Fits (policy : FeaturePolicy) (known : List String) : Prop where
  inclusion : ∀ entry ∈ policy.inclusion, entry.1 ∈ known
  candidates : ∀ flags ∈ candidates known policy, FitsCandidate known policy.exclusive flags

theorem isEmpty_strangers_iff :
    (strangers known policy).isEmpty = true ↔ ∀ entry ∈ policy.inclusion, entry.1 ∈ known := by
  rw [strangers, FlagSet.isEmpty_filter_iff]
  simp only [FlagSet.mem_ofList, List.mem_map, Bool.not_eq_false', List.contains_iff_mem]
  exact ⟨fun h entry hm => h entry.1 ⟨entry, hm, rfl⟩, fun h flag ⟨entry, hm, he⟩ => he ▸ h entry hm⟩

theorem clash?_eq_none_iff {exclusive : List FlagSet} :
    clash? exclusive flags = none ↔
      ∀ group ∈ exclusive, ∀ a b, a ∈ flags → a ∈ group → b ∈ flags → b ∈ group → a = b := by
  simp only [clash?, List.find?_eq_none, List.forall_mem_map, decide_eq_true_eq, Nat.not_lt,
    FlagSet.size_le_one_iff, FlagSet.mem_filter]
  refine forall₂_congr fun group _ => ?_
  exact ⟨fun h a b ha hga hb hgb => h a ⟨ha, hga⟩ b ⟨hb, hgb⟩,
    fun h a ha b hb => h a b ha.1 ha.2 hb.1 hb.2⟩

theorem checkCandidate_eq_ok_iff :
    checkCandidate known policy flags = .ok () ↔ FitsCandidate known policy.exclusive flags := by
  have hunknown : (flags.filter fun flag => !known.contains flag).isEmpty = true ↔
      ∀ flag ∈ flags, flag ∈ known := by
    simp only [FlagSet.isEmpty_filter_iff, Bool.not_eq_false', List.contains_iff_mem]
  unfold checkCandidate
  dsimp only
  split
  · next hu =>
      rw [Bool.not_eq_true', ← Bool.not_eq_true, hunknown] at hu
      exact iff_of_false nofun fun h => hu h.known
  · next hu =>
      rw [Bool.not_eq_true', Bool.not_eq_false, hunknown] at hu
      split
      · next hc =>
          refine iff_of_false nofun fun h => ?_
          rw [clash?_eq_none_iff.2 h.exclusive] at hc
          cases hc
      · next hc => exact iff_of_true rfl ⟨hu, clash?_eq_none_iff.1 hc⟩

/-- Combinations are selected for a policy that fits. -/
theorem featureSets_eq_ok_iff_fits :
    featureSets known policy = .ok sets ↔
      policy.Fits known ∧ sets = (candidates known policy).eraseDups.map FeatureSet.of := by
  rw [featureSets_eq_ok_iff, isEmpty_strangers_iff]
  simp only [checkCandidate_eq_ok_iff]
  constructor
  · rintro ⟨hi, hc, rfl⟩
    exact ⟨⟨hi, hc⟩, rfl⟩
  · rintro ⟨⟨hi, hc⟩, rfl⟩
    exact ⟨hi, hc, rfl⟩

/-- A policy that does not fit is refused. -/
theorem featureSets_eq_error_iff :
    (∃ fault, featureSets known policy = .error fault) ↔ ¬policy.Fits known := by
  constructor
  · rintro ⟨fault, he⟩ hf
    rw [featureSets_eq_ok_iff_fits.2 ⟨hf, rfl⟩] at he
    cases he
  · intro hf
    cases hs : featureSets known policy with
    | error fault => exact ⟨fault, rfl⟩
    | ok sets => exact absurd (featureSets_eq_ok_iff_fits.1 hs).1 hf

theorem flags_of_featureSets (h : featureSets known policy = .ok sets) :
    sets.map (·.flags) = (candidates known policy).eraseDups := by
  obtain ⟨-, rfl⟩ := featureSets_eq_ok_iff_fits.1 h
  rw [List.map_map]
  exact List.map_id _

theorem mem_flags_of_featureSets (h : featureSets known policy = .ok sets) :
    flags ∈ sets.map (·.flags) ↔ flags ∈ candidates known policy := by
  rw [flags_of_featureSets h, List.mem_eraseDups]

/-! ## Policies without listed combinations -/

theorem includes_eq_false_iff :
    policy.includes flag = false ↔ Entries.get? policy.inclusion flag = some false := by
  unfold FeaturePolicy.includes
  cases Entries.get? policy.inclusion flag <;> simp

theorem mem_candidates_iff (h : policy.listed = none) :
    flags ∈ candidates known policy ↔ flags = FlagSet.empty ∨
      ∃ flag ∈ known, policy.includes flag = true ∧ FlagSet.ofList [flag] = flags := by
  simp only [candidates, h, List.mem_cons, List.mem_map, List.mem_filter, and_assoc]

/-- Only the combination of a flag on its own holds it. -/
theorem mem_candidate_iff (h : policy.listed = none) (hm : flags ∈ candidates known policy) :
    flag ∈ flags ↔ flag ∈ known ∧ policy.includes flag = true ∧ flags = FlagSet.ofList [flag] := by
  constructor
  · intro hf
    rcases (mem_candidates_iff h).1 hm with rfl | ⟨other, hk, hi, rfl⟩
    · exact absurd hf FlagSet.not_mem_empty
    · obtain rfl := List.mem_singleton.1 (FlagSet.mem_ofList.1 hf)
      exact ⟨hk, hi, rfl⟩
  · rintro ⟨-, -, rfl⟩
    exact FlagSet.mem_ofList.2 List.mem_cons_self

/-- A flag that is left out is tested in no combination. -/
theorem not_mem_of_left_out (h : policy.listed = none) (hs : featureSets known policy = .ok sets)
    (hf : Entries.get? policy.inclusion flag = some false) : ∀ set ∈ sets, flag ∉ set.flags := by
  intro set hm hflag
  have hc : set.flags ∈ candidates known policy :=
    (mem_flags_of_featureSets hs).1 (List.mem_map_of_mem hm)
  obtain ⟨-, hi, -⟩ := (mem_candidate_iff h hc).1 hflag
  rw [includes_eq_false_iff.2 hf] at hi
  cases hi

/-- Every other flag of the crate is tested in one combination. -/
theorem existsUnique_of_known (h : policy.listed = none) (hs : featureSets known policy = .ok sets)
    (hk : flag ∈ known) (hf : Entries.get? policy.inclusion flag ≠ some false) :
    ∃! set, set ∈ sets ∧ flag ∈ set.flags := by
  have hi : policy.includes flag = true := by
    rwa [ne_eq, ← includes_eq_false_iff, Bool.not_eq_false] at hf
  have hown : FlagSet.ofList [flag] ∈ candidates known policy :=
    (mem_candidates_iff h).2 (.inr ⟨flag, hk, hi, rfl⟩)
  obtain ⟨set, hm, hflags⟩ := List.mem_map.1 ((mem_flags_of_featureSets hs).2 hown)
  refine ⟨set, ⟨hm, hflags ▸ FlagSet.mem_ofList.2 List.mem_cons_self⟩, ?_⟩
  rintro other ⟨ho, hflag⟩
  have hc : other.flags ∈ candidates known policy :=
    (mem_flags_of_featureSets hs).1 (List.mem_map_of_mem ho)
  obtain ⟨-, -, hother⟩ := (mem_candidate_iff h hc).1 hflag
  rw [name_of_featureSets hs other ho, name_of_featureSets hs set hm, hother, hflags]

/-! ## Policies in another order -/

/-- A policy with its combinations and its groups in another order. -/
structure FeaturePolicy.Rearranged (policy changed : FeaturePolicy) : Prop where
  listed : Option.Rel List.Perm policy.listed changed.listed
  inclusion : policy.inclusion = changed.inclusion
  exclusive : policy.exclusive.Perm changed.exclusive

theorem FeaturePolicy.Rearranged.symm (h : policy.Rearranged changed) : changed.Rearranged policy := by
  obtain ⟨listed, inclusion, exclusive⟩ := policy
  obtain ⟨listed', inclusion', exclusive'⟩ := changed
  obtain ⟨hl, hi, he⟩ := h
  refine ⟨?_, hi.symm, he.symm⟩
  cases hl with
  | some hp => exact .some hp.symm
  | none => exact .none

theorem candidates_perm (hk : known.Perm others) (h : policy.Rearranged changed) :
    (candidates known policy).Perm (candidates others changed) := by
  obtain ⟨listed, inclusion, exclusive⟩ := policy
  obtain ⟨listed', inclusion', exclusive'⟩ := changed
  obtain ⟨hl, rfl, he⟩ := h
  cases hl with
  | some hp => exact hp
  | none => exact ((hk.filter _).map _).cons _

theorem FeaturePolicy.Fits.rearranged (hf : policy.Fits known) (hk : known.Perm others)
    (h : policy.Rearranged changed) : changed.Fits others where
  inclusion entry hm := hk.mem_iff.1 (hf.inclusion entry (h.inclusion ▸ hm))
  candidates flags hm := by
    have hfits := hf.candidates flags ((candidates_perm hk h).mem_iff.2 hm)
    exact ⟨fun flag hflag => hk.mem_iff.1 (hfits.known flag hflag),
      fun group hg => hfits.exclusive group (h.exclusive.mem_iff.2 hg)⟩

/-! ## The selection -/

/-- The combinations that a policy selects for the flags of a crate. -/
structure SelectsCombinations (known : List String) (policy : FeaturePolicy) : Prop where
  /-- Only policies that do not fit are refused. -/
  refused_iff : (∃ fault, featureSets known policy = .error fault) ↔ ¬policy.Fits known
  /-- They are refused by discovery. -/
  category : ∀ fault, featureSets known policy = .error fault → fault.category = .discovery
  /-- Otherwise the distinct candidates are selected, in order and each under its own name. -/
  selected : policy.Fits known → ∃ sets, featureSets known policy = .ok sets ∧
    FirstOccurrences (sets.map (·.flags)) (candidates known policy) ∧
    ∀ set ∈ sets, set.name = FeatureSet.nameOf set.flags
  /-- Where no combinations are listed, flags that are left out are not tested, and every other flag is
  tested once. -/
  unlisted : policy.listed = none → ∀ sets, featureSets known policy = .ok sets → ∀ flag,
    (Entries.get? policy.inclusion flag = some false → ∀ set ∈ sets, flag ∉ set.flags) ∧
    (Entries.get? policy.inclusion flag ≠ some false → flag ∈ known →
      ∃! set, set ∈ sets ∧ flag ∈ set.flags)
  /-- The order of candidates and groups decides about the order of the selection only. -/
  rearranged : ∀ others changed, known.Perm others → policy.Rearranged changed →
    ((∃ fault, featureSets known policy = .error fault) ↔
      ∃ fault, featureSets others changed = .error fault) ∧
    ∀ sets moved, featureSets known policy = .ok sets → featureSets others changed = .ok moved →
      sets.Perm moved

theorem featureSets_selectsCombinations (known : List String) (policy : FeaturePolicy) :
    SelectsCombinations known policy := by
  constructor
  · exact featureSets_eq_error_iff
  · exact featureSets_failsOnly_discovery known policy
  · intro hf
    have hs := featureSets_eq_ok_iff_fits.2 ⟨hf, rfl⟩
    refine ⟨_, hs, ?_, fun set hm => ?_⟩
    · rw [flags_of_featureSets hs]
      exact firstOccurrences_eraseDups _
    · exact congrArg FeatureSet.name (name_of_featureSets hs set hm)
  · intro hl sets hs flag
    exact ⟨not_mem_of_left_out hl hs, fun hf hk => existsUnique_of_known hl hs hk hf⟩
  · intro others changed hk h
    constructor
    · rw [featureSets_eq_error_iff, featureSets_eq_error_iff, not_iff_not]
      exact ⟨fun hf => hf.rearranged hk h, fun hf => hf.rearranged hk.symm h.symm⟩
    · intro sets moved hs hm
      obtain ⟨-, rfl⟩ := featureSets_eq_ok_iff_fits.1 hs
      obtain ⟨-, rfl⟩ := featureSets_eq_ok_iff_fits.1 hm
      exact (eraseDups_perm (candidates_perm hk h)).map _

/-- A combination that is listed twice is tested once, at its first place. -/
example :
    let policy : FeaturePolicy := ⟨some [.ofList ["tls"], .empty, .ofList ["log", "tls"], .ofList ["tls"]],
      [("log", false)], [.ofList ["log", "gzip"]]⟩
    (featureSets ["gzip", "log", "tls"] policy).toOption.map (·.map (·.name)) =
      some ["tls", "none", "log+tls"] := by
  decide +kernel

end Discovery

end Greenlight
