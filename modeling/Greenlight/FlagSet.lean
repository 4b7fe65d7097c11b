import Greenlight.Text.Pieces

/-! # Sets of feature flags

A set of names is kept in ascending order without repetition, so that two sets with the same members
are equal. Main statement: the members of `ofList names` are those of `names`. -/

namespace Greenlight

/-- A finite set of flag names. -/
structure FlagSet where
  names : List String
  ascending : names.Pairwise (· < ·)
deriving DecidableEq

namespace FlagSet

/-- Puts a name at its place in an ascending row. -/
def insertName (name : String) : List String → List String
  | [] => [name]
  | other :: rest =>
    if name < other then name :: other :: rest
    else if name = other then other :: rest
    else other :: insertName name rest

theorem mem_insertName {x name : String} {names : List String} :
    x ∈ insertName name names ↔ x = name ∨ x ∈ names := by
  induction names with
  | nil => simp [insertName]
  | cons other rest ih =>
    by_cases h : name < other
    · simp [insertName, h]
    · by_cases he : name = other
      · rw [insertName, if_neg h, if_pos he, he]; simp
      · simp only [insertName, h, he, if_false, List.mem_cons, ih]
        constructor
        · rintro (h | h | h) <;> simp [h]
        · rintro (h | h | h) <;> simp [h]

theorem pairwise_insertName {name : String} {names : List String} (h : names.Pairwise (· < ·)) :
    (insertName name names).Pairwise (· < ·) := by
  induction names with
  | nil => simp [insertName]
  | cons other rest ih =>
    have hr := List.pairwise_cons.1 h
    by_cases hlt : name < other
    · simp only [insertName, hlt, if_true]
      refine List.pairwise_cons.2 ⟨fun x hx => ?_, h⟩
      rcases List.mem_cons.1 hx with rfl | hx
      · exact hlt
      · exact String.lt_trans hlt (hr.1 x hx)
    · by_cases he : name = other
      · subst he; simpa [insertName, String.lt_irrefl] using h
      · simp only [insertName, hlt, he, if_false]
        refine List.pairwise_cons.2 ⟨fun x hx => ?_, ih hr.2⟩
        rcases mem_insertName.1 hx with rfl | hx
        · exact Std.lt_of_le_of_ne (String.not_lt.1 hlt) (Ne.symm he)
        · exact hr.1 x hx

/-- The set without members. -/
def empty : FlagSet := ⟨[], .nil⟩

/-- The set with one more member. -/
def insert (name : String) (s : FlagSet) : FlagSet :=
  ⟨insertName name s.names, pairwise_insertName s.ascending⟩

/-- The set of the names in a list. -/
def ofList (names : List String) : FlagSet := names.foldr insert empty

instance : Membership String FlagSet := ⟨fun s name => name ∈ s.names⟩

instance (name : String) (s : FlagSet) : Decidable (name ∈ s) :=
  inferInstanceAs (Decidable (name ∈ s.names))

theorem mem_ofList {x : String} {names : List String} : x ∈ ofList names ↔ x ∈ names := by
  induction names with
  | nil => exact Iff.rfl
  | cons name rest ih =>
    show x ∈ insertName name (ofList rest).names ↔ _
    rw [mem_insertName, List.mem_cons]
    exact or_congr_right ih

/-- The members that fulfil a condition, in ascending order. -/
def filter (p : String → Bool) (s : FlagSet) : FlagSet :=
  ⟨s.names.filter p, s.ascending.filter p⟩

/-- The set has no members. -/
def isEmpty (s : FlagSet) : Bool := s.names.isEmpty

/-- The number of members. -/
def size (s : FlagSet) : Nat := s.names.length

end FlagSet

/-- A combination of flags under its name. -/
structure FeatureSet where
  name : String
  flags : FlagSet
deriving DecidableEq

namespace FeatureSet

/-- The name of a combination: its flags with plus signs between them, or a word for none. -/
def nameOf (flags : FlagSet) : String :=
  if flags.isEmpty then "none" else Text.join "+" flags.names

/-- A combination under its own name. -/
def of (flags : FlagSet) : FeatureSet := ⟨nameOf flags, flags⟩

end FeatureSet

end Greenlight
