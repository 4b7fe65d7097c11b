import Greenlight.FlagSet
import Greenlight.Proofs.Text.Pieces
import Mathlib.Data.List.Sort

/-! # Names of combinations

The name of a combination does not always tell it from another one: a flag may be called `none`, and a
flag may hold a plus sign. Main statement: two combinations have the same name exactly when they are
equal or resemble each other. -/

namespace Greenlight

namespace FlagSet

/-- The parts of the flags between plus signs, flag by flag. -/
def parts (s : FlagSet) : List String := s.names.flatMap (Text.pieces '+')

/-- Combinations that are written alike: the one without flags and the one of a flag called `none`, or
two with flags that have the same parts. -/
inductive Resembles : FlagSet → FlagSet → Prop where
  | emptyNone : Resembles empty (ofList ["none"])
  | noneEmpty : Resembles (ofList ["none"]) empty
  | parts {a b} (ha : a ≠ empty) (hb : b ≠ empty) (h : a.parts = b.parts) : Resembles a b

/-- A combination whose flags hold no plus sign, and none of whose flags is called `none`. -/
def IsPlain (s : FlagSet) : Prop := ∀ flag ∈ s.names, flag ≠ "none" ∧ '+' ∉ flag.toList

theorem toList_plus : "+".toList = ['+'] := rfl

variable {a b s : FlagSet}

theorem names_inj : a.names = b.names ↔ a = b := by
  cases a
  cases b
  simp

/-- Sets with the same members are equal. -/
theorem eq_of_mem_iff (h : ∀ flag, flag ∈ a.names ↔ flag ∈ b.names) : a = b :=
  names_inj.1 (a.ascending.eq_of_mem_iff b.ascending h)

/-- The names of a set make the same set again. -/
theorem ofList_names (s : FlagSet) : ofList s.names = s := eq_of_mem_iff fun _ => mem_ofList

theorem names_ne_nil_iff : s.names ≠ [] ↔ s ≠ empty := by
  rw [ne_eq, ne_eq, ← names_inj]
  rfl

theorem isEmpty_eq_true_iff : s.isEmpty = true ↔ s = empty := by
  rw [isEmpty, List.isEmpty_iff, ← names_inj]
  rfl

theorem IsPlain.parts_eq (h : s.IsPlain) : s.parts = s.names :=
  Text.flatMap_pieces_of_not_mem fun flag hm => (h flag hm).2

/-- Plain combinations that resemble each other are equal. -/
theorem Resembles.eq_of_isPlain (h : a.Resembles b) (ha : a.IsPlain) (hb : b.IsPlain) : a = b := by
  have hnone : ¬(ofList ["none"]).IsPlain := fun hp => (hp "none" List.mem_cons_self).1 rfl
  cases h with
  | emptyNone => exact absurd hb hnone
  | noneEmpty => exact absurd ha hnone
  | parts _ _ h => rwa [ha.parts_eq, hb.parts_eq, names_inj] at h

/-- The one combination with flags that have `none` as their only part. -/
theorem parts_eq_none_iff : s.parts = ["none"] ↔ s = ofList ["none"] := by
  constructor
  · intro h
    cases hn : s.names with
    | nil => simp [parts, hn] at h
    | cons flag rest =>
      rw [parts, hn, List.flatMap_cons, List.append_eq_singleton_iff] at h
      rcases h with ⟨hflag, -⟩ | ⟨hflag, hrest⟩
      · exact absurd hflag (Text.pieces_ne_nil '+' flag)
      · have hone : rest = [] := List.eq_nil_iff_forall_not_mem.2 fun next hm =>
          Text.pieces_ne_nil '+' next (List.flatMap_eq_nil_iff.1 hrest next hm)
        have hcalled : flag = "none" := by
          rw [← Text.join_pieces toList_plus flag, hflag]
          rfl
        rw [← names_inj, hn, hone, hcalled]
        rfl
  · rintro rfl
    decide

end FlagSet

namespace FeatureSet

open FlagSet

variable {a b : FlagSet}

theorem nameOf_of_ne_empty (h : a ≠ empty) : nameOf a = Text.join "+" a.names := by
  rw [nameOf, if_neg (mt isEmpty_eq_true_iff.1 h)]

/-- Combinations with flags have the same name when the parts of their flags are the same. -/
theorem nameOf_eq_iff_parts (ha : a ≠ empty) (hb : b ≠ empty) :
    nameOf a = nameOf b ↔ a.parts = b.parts := by
  rw [nameOf_of_ne_empty ha, nameOf_of_ne_empty hb,
    Text.join_eq_join_iff toList_plus (names_ne_nil_iff.2 ha) (names_ne_nil_iff.2 hb)]
  rfl

/-- The name of the combination without flags is that of a flag called `none`, too. -/
theorem nameOf_eq_none_iff (ha : a ≠ empty) : nameOf a = "none" ↔ a = ofList ["none"] := by
  have hnone : nameOf (ofList ["none"]) = "none" := by decide
  rw [← parts_eq_none_iff, ← parts_eq_none_iff.2 (Eq.refl (ofList ["none"])),
    ← nameOf_eq_iff_parts ha (by decide), hnone]

theorem nameOf_eq_iff : nameOf a = nameOf b ↔ a = b ∨ a.Resembles b := by
  constructor
  · intro h
    by_cases ha : a = empty
    · subst ha
      by_cases hb : b = empty
      · exact .inl hb.symm
      · rw [(nameOf_eq_none_iff hb).1 h.symm]
        exact .inr .emptyNone
    · by_cases hb : b = empty
      · subst hb
        rw [(nameOf_eq_none_iff ha).1 h]
        exact .inr .noneEmpty
      · exact .inr (.parts ha hb ((nameOf_eq_iff_parts ha hb).1 h))
  · rintro (rfl | hr)
    · rfl
    · cases hr with
      | emptyNone | noneEmpty => decide
      | parts ha hb h => exact (nameOf_eq_iff_parts ha hb).2 h

end FeatureSet

end Greenlight
