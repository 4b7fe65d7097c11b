import Mathlib.Data.List.Perm.Basic

/-! # Distinct elements

The elements of a row without repetition. Main statement: each of them is kept once, in the order in which
they first come. -/

namespace Greenlight

variable {α : Type} [BEq α] [LawfulBEq α]

/-- The distinct elements of a row, in the order in which they first come. -/
structure FirstOccurrences (firsts xs : List α) : Prop where
  nodup : firsts.Nodup
  mem_iff : ∀ x, x ∈ firsts ↔ x ∈ xs
  ordered : firsts.Pairwise fun a b => xs.idxOf a < xs.idxOf b

theorem filter_eraseDups (p : α → Bool) (xs : List α) :
    xs.eraseDups.filter p = (xs.filter p).eraseDups := by
  match xs with
  | [] => simp
  | x :: rest =>
    have ih := filter_eraseDups p (rest.filter fun y => !y == x)
    rw [List.eraseDups_cons, List.filter_cons, List.filter_cons, ih]
    split
    · rw [List.eraseDups_cons, List.filter_filter, List.filter_filter]
      simp only [Bool.and_comm]
    · next hx =>
        -- what is equal to the first element is left out with it
        rw [List.filter_filter]
        refine congrArg _ (List.filter_congr fun y _ => ?_)
        by_cases hy : y = x
        · simp [hy, hx]
        · simp [hy]
termination_by xs.length
decreasing_by exact Nat.lt_succ_of_le (List.length_filter_le _ _)

theorem nodup_eraseDups (xs : List α) : xs.eraseDups.Nodup := by
  match xs with
  | [] => simp
  | x :: rest =>
    have ih := nodup_eraseDups (rest.filter fun y => !y == x)
    rw [List.eraseDups_cons, List.nodup_cons]
    refine ⟨fun hm => ?_, ih⟩
    rw [List.mem_eraseDups, List.mem_filter] at hm
    simp at hm
termination_by xs.length
decreasing_by exact Nat.lt_succ_of_le (List.length_filter_le _ _)

/-- What is left out does not change which of two elements comes first. -/
theorem idxOf_lt_of_filter {p : α → Bool} {xs : List α} {a b : α} (ha : p a = true) (hb : p b = true)
    (h : (xs.filter p).idxOf a < (xs.filter p).idxOf b) : xs.idxOf a < xs.idxOf b := by
  induction xs with
  | nil => simp at h
  | cons x rest ih =>
    by_cases hbx : x = b
    · subst hbx
      simp [hb] at h
    · rw [List.idxOf_cons_ne rest hbx]
      by_cases hax : x = a
      · subst hax
        simp
      · rw [List.idxOf_cons_ne rest hax]
        refine Nat.succ_lt_succ (ih ?_)
        cases hx : p x with
        | false => simpa [List.filter_cons, hx] using h
        | true => simpa [List.filter_cons, hx, List.idxOf_cons_ne, hax, hbx] using h

theorem pairwise_idxOf_eraseDups (xs : List α) :
    xs.eraseDups.Pairwise fun a b => xs.idxOf a < xs.idxOf b := by
  match xs with
  | [] => simp
  | x :: rest =>
    have ih := pairwise_idxOf_eraseDups (rest.filter fun y => !y == x)
    have hne : ∀ y ∈ (rest.filter fun y => !y == x).eraseDups, (!y == x) = true := fun y hm =>
      (List.mem_filter.1 (List.mem_eraseDups.1 hm)).2
    have hsucc (y : α) (hy : (!y == x) = true) : (x :: rest).idxOf y = rest.idxOf y + 1 :=
      List.idxOf_cons_ne rest (by rintro rfl; simp at hy)
    rw [List.eraseDups_cons, List.pairwise_cons]
    constructor
    · intro y hm
      rw [List.idxOf_cons_self, hsucc y (hne y hm)]
      exact Nat.succ_pos _
    · refine ih.imp_of_mem fun {a b} hma hmb hab => ?_
      have ha := hne a hma
      have hb := hne b hmb
      rw [hsucc a ha, hsucc b hb]
      exact Nat.succ_lt_succ (idxOf_lt_of_filter ha hb hab)
termination_by xs.length
decreasing_by exact Nat.lt_succ_of_le (List.length_filter_le _ _)

theorem firstOccurrences_eraseDups (xs : List α) : FirstOccurrences xs.eraseDups xs where
  nodup := nodup_eraseDups xs
  mem_iff _ := List.mem_eraseDups
  ordered := pairwise_idxOf_eraseDups xs

/-- A row without repetition is left as it is. -/
theorem eraseDups_of_nodup {xs : List α} (h : xs.Nodup) : xs.eraseDups = xs := by
  induction xs with
  | nil => simp
  | cons x rest ih =>
    obtain ⟨hx, hrest⟩ := List.nodup_cons.1 h
    have hkept : (rest.filter fun y => !y == x) = rest := by
      refine List.filter_eq_self.2 fun y hm => ?_
      rw [Bool.not_eq_true', beq_eq_false_iff_ne]
      rintro rfl
      exact hx hm
    rw [List.eraseDups_cons, hkept, ih hrest]

/-- There is one row of distinct elements only. -/
theorem firstOccurrences_iff {firsts xs : List α} :
    FirstOccurrences firsts xs ↔ xs.eraseDups = firsts := by
  constructor
  · intro h
    have hfirst := firstOccurrences_eraseDups xs
    have hperm : xs.eraseDups.Perm firsts := by
      rw [List.perm_ext_iff_of_nodup hfirst.nodup h.nodup]
      exact fun x => (hfirst.mem_iff x).trans (h.mem_iff x).symm
    refine hperm.eq_of_pairwise (fun a b _ _ hab hba => ?_) hfirst.ordered h.ordered
    exact absurd hab (Nat.lt_asymm hba)
  · rintro rfl
    exact firstOccurrences_eraseDups xs

/-- Rows with the same elements have the same distinct ones, perhaps in another order. -/
theorem eraseDups_perm {xs others : List α} (h : xs.Perm others) :
    xs.eraseDups.Perm others.eraseDups := by
  rw [List.perm_ext_iff_of_nodup (nodup_eraseDups xs) (nodup_eraseDups others)]
  intro x
  rw [List.mem_eraseDups, List.mem_eraseDups, h.mem_iff]

end Greenlight
