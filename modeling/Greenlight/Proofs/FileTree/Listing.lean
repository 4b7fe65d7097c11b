import Greenlight.FileTree
import Mathlib.Data.List.Nodup

/-! # Listing order

A tree may hold its entries in any order. Main statement: what a path leads to does not depend on it, nor
whether it can be read, and a folder lists the same names. -/

namespace Greenlight.FileTree

variable {t other : FileTree} {path : String}

/-! ## What is listed, and what a path leads to -/

/-- What is listed lies in a folder. -/
theorem isFolder_of_mem_list {name : String} (h : name ∈ t.list path) (hn : isNameable path = true) :
    t.isFolder path = true := by
  unfold list at h
  split at h
  · next hf => simp [isFolder, hn, hf]
  · cases h

/-- A regular file is no folder. -/
theorem isFolder_of_isFile (h : t.isFile path = true) : t.isFolder path = false := by
  unfold isFile at h
  rw [Bool.and_eq_true] at h
  obtain ⟨-, h⟩ := h
  split at h
  · next hf => simp [isFolder, hf]
  · cases h

/-! ## Entries in another order -/

/-- Two trees with the same entries, no two of them at one position, held in any order. -/
structure Reordered (t other : FileTree) : Prop where
  here_eq : t.here = other.here
  unreadable_eq : t.unreadable = other.unreadable
  nodup : (t.entries.map (·.1)).Nodup
  perm : t.entries.Perm other.entries

/-- The only entry at a position is found wherever it stands. -/
theorem find?_entry_of_perm {entries others : List (Position × Node)} (h : entries.Perm others)
    (hn : (entries.map (·.1)).Nodup) (at_ : Position) :
    entries.find? (·.1 == at_) = others.find? (·.1 == at_) := by
  induction h with
  | nil => rfl
  | cons entry _ ih =>
    rw [List.map_cons, List.nodup_cons] at hn
    rw [List.find?_cons, List.find?_cons, ih hn.2]
  | swap first second rest =>
    have hne : second.1 ≠ first.1 := by
      rw [List.map_cons, List.map_cons, List.nodup_cons, List.mem_cons, not_or] at hn
      exact hn.1.1
    by_cases hs : second.1 = at_
    · have hf : first.1 ≠ at_ := fun he => hne (hs.trans he.symm)
      simp [hs, hf]
    · simp [List.find?_cons, hs]
  | trans h _ ih ihOthers => exact (ih hn).trans (ihOthers ((h.map _).nodup_iff.1 hn))

theorem walkTo_congr (h : ∀ at_, t.node? at_ = other.node? at_) (keepLast : Bool)
    (follow : Position → List String → Except FileProblem Target) (at_ : Position)
    (names : List String) :
    t.walkTo keepLast follow at_ names = other.walkTo keepLast follow at_ names := by
  induction names generalizing at_ with
  | nil => rfl
  | cons name rest ih => simp only [walkTo, h, ih]

/-- What is at each position decides where names lead. -/
theorem walk_congr (h : ∀ at_, t.node? at_ = other.node? at_) (keepLast : Bool) (links : Nat) :
    t.walk keepLast links = other.walk keepLast links := by
  induction links with
  | zero => exact funext₂ (walkTo_congr h keepLast _)
  | succ links ih =>
    rw [walk, walk, ih]
    exact funext₂ (walkTo_congr h keepLast _)

namespace Reordered

theorem node?_eq (h : t.Reordered other) (at_ : Position) : t.node? at_ = other.node? at_ := by
  rw [node?, node?, h.here_eq, find?_entry_of_perm h.perm h.nodup]

theorem find_eq (h : t.Reordered other) (path : String) : t.find path = other.find path := by
  simp only [find, origin, h.here_eq, walk_congr h.node?_eq]

theorem isFile_eq (h : t.Reordered other) (path : String) : t.isFile path = other.isFile path := by
  rw [isFile, isFile, h.find_eq]

theorem isFolder_eq (h : t.Reordered other) (path : String) :
    t.isFolder path = other.isFolder path := by
  rw [isFolder, isFolder, h.find_eq]

theorem denies_eq (h : t.Reordered other) (path : String) : t.denies path = other.denies path := by
  rw [denies, denies, h.find_eq, h.unreadable_eq]

theorem read_eq (h : t.Reordered other) (path : String) : t.read path = other.read path := by
  rw [read, read, h.denies_eq, content, content, h.find_eq]

/-- A folder lists the same names, perhaps in another order. -/
theorem list_perm (h : t.Reordered other) (path : String) : (t.list path).Perm (other.list path) := by
  unfold list
  rw [h.find_eq]
  split
  · exact h.perm.filterMap _
  · exact .refl _

end Reordered

end Greenlight.FileTree
