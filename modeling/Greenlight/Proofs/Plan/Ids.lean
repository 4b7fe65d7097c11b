import Greenlight.Proofs.Plan.Queue
import Mathlib.Data.List.Duplicate

/-! # Ids of a plan

The ids of examples, of combinations and of the fixed checks of a crate without declarations stay apart
from each other. Main statement: such a plan is refused only for two combinations of one name. -/

namespace Greenlight

/-! ## Elements that come twice -/

section Duplicates

open List

variable {α β : Type}

/-- In two rows without a common element, what comes twice does so in one of them. -/
theorem duplicate_append [DecidableEq α] {xs ys : List α} (h : ∀ x ∈ xs, x ∉ ys) {x : α}
    (hx : Duplicate x (xs ++ ys)) : Duplicate x xs ∨ Duplicate x ys := by
  simp only [duplicate_iff_two_le_count, count_append] at hx ⊢
  by_cases hm : x ∈ xs
  · have hzero : count x ys = 0 := count_eq_zero_of_not_mem (h x hm)
    omega
  · have hzero : count x xs = 0 := count_eq_zero_of_not_mem hm
    omega

/-- What comes twice among values is that of two places. -/
theorem exists_of_duplicate_map {f : α → β} {xs : List α} {y : β} (h : Duplicate y (xs.map f)) :
    ∃ a b, [a, b] <+ xs ∧ f a = y ∧ f b = y := by
  obtain ⟨places, hp, hy⟩ := sublist_map_iff.1 (duplicate_iff_sublist.1 h)
  obtain ⟨a, rest, rfl, ha, hrest⟩ := map_eq_cons_iff.1 hy.symm
  obtain ⟨b, more, rfl, hb, hmore⟩ := map_eq_cons_iff.1 hrest
  obtain rfl := map_eq_nil_iff.1 hmore
  exact ⟨a, b, hp, ha, hb⟩

end Duplicates

namespace Plan

theorem duplicate_of_firstRepeated {seen ids : List String} {id : String}
    (h : firstRepeated seen ids = some id) : ids.Duplicate id ∨ id ∈ seen ∧ id ∈ ids := by
  induction ids generalizing seen with
  | nil => cases h
  | cons first rest ih =>
    unfold firstRepeated at h
    split at h
    · next hs =>
        cases h
        exact .inr ⟨List.contains_iff_mem.1 hs, List.mem_cons_self⟩
    · rcases ih h with hd | ⟨hs, hm⟩
      · exact .inl (hd.duplicate_cons first)
      · rcases List.mem_cons.1 hs with rfl | hs
        · exact .inl hm.duplicate_cons_self
        · exact .inr ⟨hs, List.mem_cons_of_mem first hm⟩

/-! ## Fixed checks without declarations -/

variable {t : Toolchain} {names : List String} {sets : List FeatureSet} {checks : List FixedCheck}
  {fixed : List Task}

theorem map_id_of_mapM_checkTask (h : checks.mapM checkTask = .ok fixed) :
    fixed.map Task.id = checks.map FixedCheck.id := by
  rw [mapM_eq_ok_iff] at h
  induction h with
  | nil => rfl
  | cons hx _ ih =>
    unfold checkTask at hx
    split at hx
    · cases hx
    · cases hx
      exact congrArg (_ :: ·) ih

theorem exists_mapM_checkTask_of_defaults (h : ∀ check ∈ checks, check ∈ FixedCheck.defaults t) :
    ∃ fixed, checks.mapM checkTask = .ok fixed := by
  refine exists_mapM_eq_ok fun check hm => ?_
  have hcommand : check.command.isEmpty = false := by
    have hd := h check hm
    simp only [FixedCheck.defaults, List.mem_cons, List.not_mem_nil, or_false] at hd
    rcases hd with rfl | rfl | rfl | rfl <;> simp [Toolchain.command, Arg.ofTexts]
  simp [checkTask, hcommand]

/-! ## Three kinds of ids -/

theorem map_id_queue (hf : checks.mapM checkTask = .ok fixed) :
    (names.map (exampleTask t) ++ sets.map (testTask t) ++ fixed).map Task.id =
      names.map ("example:" ++ ·) ++ sets.map ("test:" ++ ·.name) ++ checks.map FixedCheck.id := by
  rw [List.map_append, List.map_append, List.map_map, List.map_map, map_id_of_mapM_checkTask hf]
  rfl

theorem exampleId_ne_testId (name other : String) : "example:" ++ name ≠ "test:" ++ other := by
  intro h
  have hchars := congrArg String.toList h
  simp at hchars

/-- No id of a fixed check begins like one of an example or a combination. -/
theorem ne_id_of_mem_defaults {check : FixedCheck} (h : check ∈ FixedCheck.defaults t)
    (name : String) : "example:" ++ name ≠ check.id ∧ "test:" ++ name ≠ check.id := by
  simp only [FixedCheck.defaults, List.mem_cons, List.not_mem_nil, or_false] at h
  constructor <;> intro he <;> have hchars := congrArg String.toList he <;>
    rcases h with rfl | rfl | rfl | rfl <;> simp at hchars

theorem nodup_map_exampleId (hn : names.Nodup) : (names.map ("example:" ++ ·)).Nodup :=
  hn.map fun _ _ he => (String.append_right_inj _).1 he

theorem nodup_map_id_defaults (hc : checks.Sublist (FixedCheck.defaults t)) :
    (checks.map FixedCheck.id).Nodup := by
  have hdefaults : ((FixedCheck.defaults t).map FixedCheck.id).Nodup := by
    simp [FixedCheck.defaults]
  exact hdefaults.sublist (hc.map FixedCheck.id)

/-- An id that comes twice in the queue of a crate without declarations is that of two combinations. -/
theorem exists_of_duplicate_id (hn : names.Nodup) (hc : checks.Sublist (FixedCheck.defaults t))
    {id : String} (h : (names.map ("example:" ++ ·) ++ sets.map ("test:" ++ ·.name) ++
      checks.map FixedCheck.id).Duplicate id) :
    ∃ a b, [a, b].Sublist sets ∧ a.name = b.name ∧ id = "test:" ++ a.name := by
  have hchecks : ∀ other ∈ names.map ("example:" ++ ·) ++ sets.map ("test:" ++ ·.name),
      other ∉ checks.map FixedCheck.id := by
    intro other hm hcheck
    obtain ⟨check, hkept, rfl⟩ := List.mem_map.1 hcheck
    have hne := ne_id_of_mem_defaults (hc.subset hkept)
    rw [List.mem_append, List.mem_map, List.mem_map] at hm
    rcases hm with ⟨name, -, he⟩ | ⟨set, -, he⟩
    · exact (hne name).1 he
    · exact (hne set.name).2 he
  have htests : ∀ other ∈ names.map ("example:" ++ ·), other ∉ sets.map ("test:" ++ ·.name) := by
    intro other hm hset
    obtain ⟨name, -, rfl⟩ := List.mem_map.1 hm
    obtain ⟨set, -, he⟩ := List.mem_map.1 hset
    exact exampleId_ne_testId name set.name he.symm
  rcases duplicate_append hchecks h with h | h
  · rcases duplicate_append htests h with h | h
    · exact absurd (nodup_map_exampleId hn) h.not_nodup
    · obtain ⟨a, b, hab, rfl, hb⟩ := exists_of_duplicate_map h
      exact ⟨a, b, hab, ((String.append_right_inj _).1 hb).symm, rfl⟩
  · exact absurd (nodup_map_id_defaults hc) h.not_nodup

/-- The ids of the combinations in a queue differ. -/
theorem nodup_testIds_of_expand {tasks : List Task} (h : expand t names sets checks = .ok tasks) :
    (sets.map ("test:" ++ ·.name)).Nodup := by
  obtain ⟨fixed, hf, rfl, hids⟩ := expand_eq_ok_iff.1 h
  rw [map_id_queue hf] at hids
  exact (hids.sublist (List.sublist_append_left _ _)).sublist (List.sublist_append_right _ _)

/-- A crate without declarations has a queue, unless two of its combinations have one name. -/
theorem expand_defaults (hn : names.Nodup) (hc : checks.Sublist (FixedCheck.defaults t)) :
    (∃ tasks, expand t names sets checks = .ok tasks) ∨
      ∃ a b, [a, b].Sublist sets ∧ a.name = b.name ∧
        expand t names sets checks = .error (.expansion (.idRepeated ("test:" ++ a.name))) := by
  obtain ⟨fixed, hf⟩ := exists_mapM_checkTask_of_defaults fun check hm => hc.subset hm
  unfold expand
  rw [hf]
  dsimp only [bind, Except.bind]
  split
  · next id hid =>
      have hd := (duplicate_of_firstRepeated hid).resolve_right fun h => List.not_mem_nil h.1
      rw [map_id_queue hf] at hd
      obtain ⟨a, b, hab, hname, rfl⟩ := exists_of_duplicate_id hn hc hd
      exact .inr ⟨a, b, hab, hname, rfl⟩
  · exact .inl ⟨_, rfl⟩

end Plan

end Greenlight
