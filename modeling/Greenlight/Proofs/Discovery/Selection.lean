import Greenlight.Discovery.Examples
import Greenlight.Proofs.Distinct

/-! # Selected examples

Of the examples that a crate offers, each name that is not denied is selected once, in ascending order,
with the first example offered under it. -/

namespace Greenlight

/-! ## Ascending order -/

namespace Text

theorem pairwise_sort (names : List String) :
    (sort names).Pairwise fun a b => precedes a b = true := by
  refine List.pairwise_mergeSort ?_ ?_ names
  · intro a b c hab hbc
    simp only [precedes, decide_eq_true_eq] at *
    exact String.le_trans hab hbc
  · intro a b
    simpa [precedes] using String.le_total a b

/-- Two rows of texts in ascending order are equal if they hold the same texts equally often. -/
theorem eq_of_perm_of_pairwise {names others : List String} (hp : names.Perm others)
    (hn : names.Pairwise fun a b => precedes a b = true)
    (ho : others.Pairwise fun a b => precedes a b = true) : names = others := by
  refine hp.eq_of_pairwise ?_ hn ho
  intro a b _ _ hab hba
  simp only [precedes, decide_eq_true_eq] at hab hba
  exact String.le_antisymm hab hba

theorem sort_eq_of_perm {names others : List String} (h : names.Perm others) :
    sort names = sort others := by
  refine eq_of_perm_of_pairwise ?_ (pairwise_sort names) (pairwise_sort others)
  exact ((List.mergeSort_perm names precedes).trans h).trans (List.mergeSort_perm others _).symm

theorem filter_sort (p : String → Bool) (names : List String) :
    (sort names).filter p = sort (names.filter p) := by
  refine eq_of_perm_of_pairwise ?_ ((pairwise_sort names).filter p) (pairwise_sort _)
  exact ((List.mergeSort_perm names precedes).filter p).trans (List.mergeSort_perm _ _).symm

theorem mem_sort {name : String} {names : List String} : name ∈ sort names ↔ name ∈ names :=
  (List.mergeSort_perm names precedes).mem_iff

end Text

namespace Discovery

/-- The names of the selected examples. -/
theorem map_name_selectExamples (denied : List String) (offered : List Example) :
    (selectExamples denied offered).map (·.name) =
      Text.sort ((offered.map (·.name)).filter (!denied.contains ·)).eraseDups := by
  unfold selectExamples
  dsimp only
  have hkept : (offered.filter fun e => !denied.contains e.name).map (·.name) =
      (offered.map (·.name)).filter (!denied.contains ·) := by
    rw [List.filter_map]
    rfl
  generalize (offered.filter fun e => !denied.contains e.name) = kept at hkept
  rw [← hkept, List.map_filterMap]
  -- every name belongs to a kept example
  have hfound : ∀ name ∈ Text.sort (kept.map (·.name)).eraseDups,
      (kept.find? (·.name == name)).map (·.name) = some name := by
    intro name hm
    rw [Text.mem_sort, List.mem_eraseDups, List.mem_map] at hm
    obtain ⟨e, he, rfl⟩ := hm
    cases hf : kept.find? (·.name == e.name) with
    | none => simpa using List.find?_eq_none.1 hf e he
    | some found => simpa using List.find?_some hf
  calc (Text.sort (kept.map (·.name)).eraseDups).filterMap
        (fun name => (kept.find? (·.name == name)).map (·.name))
      = (Text.sort (kept.map (·.name)).eraseDups).filterMap some := List.filterMap_congr hfound
    _ = Text.sort (kept.map (·.name)).eraseDups := List.filterMap_some

theorem mem_map_name_selectExamples_nil {offered : List Example} {name : String} :
    name ∈ (selectExamples [] offered).map (·.name) ↔ name ∈ offered.map (·.name) := by
  rw [map_name_selectExamples, Text.mem_sort, List.mem_eraseDups]
  simp

/-- No two of the selected examples have the same name. -/
theorem nodup_map_name_selectExamples (denied : List String) (offered : List Example) :
    ((selectExamples denied offered).map (·.name)).Nodup := by
  rw [map_name_selectExamples]
  exact (List.mergeSort_perm _ _).nodup_iff.2 (nodup_eraseDups _)

/-- To deny more names leaves their examples out and changes nothing else. -/
theorem map_name_selectExamples_of_denied {denied more names : List String} (offered : List Example)
    (h : ∀ name, name ∈ more ↔ name ∈ denied ∨ name ∈ names) :
    (selectExamples more offered).map (·.name) =
      ((selectExamples denied offered).map (·.name)).filter (!names.contains ·) := by
  rw [map_name_selectExamples, map_name_selectExamples, Text.filter_sort, filter_eraseDups,
    List.filter_filter]
  refine congrArg (fun kept => Text.sort kept.eraseDups) (List.filter_congr fun name _ => ?_)
  simp only [List.contains_eq_mem, h, Bool.decide_or, Bool.not_or, Bool.and_comm]

/-- The names of the selected examples ascend. -/
theorem pairwise_selectExamples (denied : List String) (offered : List Example) :
    (selectExamples denied offered).Pairwise fun a b => a.name < b.name := by
  have hle : ((selectExamples denied offered).map (·.name)).Pairwise
      fun a b => Text.precedes a b = true := by
    rw [map_name_selectExamples]
    exact Text.pairwise_sort _
  rw [← List.pairwise_map]
  refine (hle.and (nodup_map_name_selectExamples denied offered)).imp fun {a b} hab => ?_
  exact Std.lt_of_le_of_ne (of_decide_eq_true hab.1) hab.2

/-- An example is selected if its name is not denied and it is the first one offered under it. -/
theorem mem_selectExamples {denied : List String} {offered : List Example} {e : Example} :
    e ∈ selectExamples denied offered ↔
      denied.contains e.name = false ∧ offered.find? (·.name == e.name) = some e := by
  have hkept : (offered.filter fun e => !denied.contains e.name).find? (·.name == e.name) = some e ↔
      denied.contains e.name = false ∧ offered.find? (·.name == e.name) = some e := by
    rw [List.find?_filter]
    cases hd : denied.contains e.name with
    | false =>
      have hsame : (fun other : Example => decide ((!denied.contains other.name) = true ∧
          (other.name == e.name) = true)) = fun other => other.name == e.name := by
        funext other
        by_cases ho : other.name = e.name <;> simp_all
      rw [hsame]
      exact (and_iff_right rfl).symm
    | true =>
      refine iff_of_false (fun hf => ?_) nofun
      have hkept := List.find?_some hf
      simp_all
  unfold selectExamples
  dsimp only
  rw [← hkept, List.mem_filterMap]
  constructor
  · rintro ⟨name, -, hf⟩
    have hname : e.name = name := by simpa using List.find?_some hf
    rw [hname, hf]
  · intro hf
    refine ⟨e.name, ?_, hf⟩
    rw [Text.mem_sort, List.mem_eraseDups]
    exact List.mem_map_of_mem (List.mem_of_find?_eq_some hf)

/-- To deny names leaves the examples with these names out and changes nothing else. -/
theorem selectExamples_eq_filter (denied : List String) (offered : List Example) :
    selectExamples denied offered =
      (selectExamples [] offered).filter fun e => !denied.contains e.name := by
  have hleft := pairwise_selectExamples denied offered
  have hright := (pairwise_selectExamples [] offered).filter fun e => !denied.contains e.name
  have hnodup {es : List Example} (h : es.Pairwise fun a b => a.name < b.name) : es.Nodup :=
    h.imp fun hab => by
      rintro rfl
      exact String.lt_irrefl _ hab
  have hperm : (selectExamples denied offered).Perm
      ((selectExamples [] offered).filter fun e => !denied.contains e.name) := by
    rw [List.perm_ext_iff_of_nodup (hnodup hleft) (hnodup hright)]
    intro e
    rw [List.mem_filter, mem_selectExamples, mem_selectExamples]
    simp [and_comm]
  -- rows in the same strict order hold their elements at the same places
  refine hperm.eq_of_pairwise ?_ hleft hright
  intro a b _ _ hab hba
  exact absurd hba (String.lt_asymm hab)

end Discovery

end Greenlight
