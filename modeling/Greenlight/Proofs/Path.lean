import Greenlight.FileTree
import Greenlight.Proofs.Text.Pieces

/-! # Names of paths

A path can name an entry when each of its names can, a plain name stands right below its folder, and a name
is cut before the last of its dots. -/

namespace Greenlight

/-! ## Paths without the character zero -/

theorem isNameable_iff {s : String} :
    FileTree.isNameable s = true ↔ Char.ofNat 0 ∉ s.toList := by
  simp [FileTree.isNameable]

/-- A path names something when its names do. -/
theorem isNameable_text_iff (p : Path) :
    FileTree.isNameable p.text = true ↔ ∀ name ∈ p.names, FileTree.isNameable name = true := by
  obtain ⟨start, names⟩ := p
  have hjoin : Char.ofNat 0 ∉ (Text.join "/" names).toList ↔
      ∀ name ∈ names, FileTree.isNameable name = true := by
    rw [Text.mem_toList_join_iff (by decide)]
    simp [isNameable_iff]
  have htext (start : Path.Start) : Char.ofNat 0 ∉ start.text.toList := by
    cases start <;> decide
  rw [isNameable_iff]
  unfold Path.text
  split
  · next hn =>
      subst hn
      exact iff_of_true (by decide) (List.forall_mem_nil _)
  · rw [String.toList_append, List.mem_append, not_or, hjoin]
    exact and_iff_right (htext start)

/-! ## Paths below a folder -/

theorem Path.child_eq (p : Path) {name : String} (h : '/' ∉ name.toList) (hk : isKept name = true) :
    p.child name = ⟨p.start, p.names ++ [name]⟩ := by
  have hslashes : name.toList.takeWhile (· == '/') = [] := by
    cases hc : name.toList with
    | nil => rfl
    | cons c rest =>
      rw [hc, List.mem_cons, not_or] at h
      simp [Ne.symm h.1]
  rw [child, ofText, Text.pieces_of_not_mem h, hslashes]
  simp [join, isAbsolute, startOf, hk]

/-! ## The ending of a name -/

/-- A dot with characters behind it that are no dots. -/
def Path.IsEnding (suffix : String) : Prop :=
  ∃ after, after ≠ [] ∧ '.' ∉ after ∧ suffix.toList = '.' :: after

namespace Path

variable {name stem suffix : String}

/-- A name is cut into what stands before its ending, if anything does, and its ending. -/
theorem splitName_eq_some_iff :
    splitName name = some (stem, suffix) ↔ stem ≠ "" ∧ IsEnding suffix ∧ name = stem ++ suffix := by
  unfold splitName
  constructor
  · intro h
    split at h
    · next before after hcut =>
        rw [Text.cutAtLast_eq_some_iff] at hcut
        obtain ⟨hdot, hname⟩ := hcut
        split at h
        · cases h
        · next hne =>
            cases h
            simp only [Bool.or_eq_true, List.isEmpty_iff, not_or] at hne
            refine ⟨by simpa using hne.1, ⟨after, hne.2, hdot, String.toList_ofList⟩, ?_⟩
            rw [← String.toList_inj, hname, String.toList_append, String.toList_ofList,
              String.toList_ofList]
    · cases h
  · rintro ⟨hstem, ⟨after, hafter, hdot, hsuffix⟩, rfl⟩
    have hcut : Text.cutAtLast '.' (stem ++ suffix).toList = some (stem.toList, after) := by
      rw [Text.cutAtLast_eq_some_iff, String.toList_append, hsuffix]
      exact ⟨hdot, rfl⟩
    have hne : ¬(stem.toList.isEmpty || after.isEmpty) = true := by
      simpa [hafter] using hstem
    rw [hcut]
    dsimp only
    rw [if_neg hne, ← hsuffix, String.ofList_toList, String.ofList_toList]

/-- A name has an ending when it is longer than the ending. -/
theorem ending_eq_iff (h : IsEnding suffix) :
    ending name = suffix ↔ ∃ stem, stem ≠ "" ∧ name = stem ++ suffix := by
  have hne : suffix ≠ "" := by
    obtain ⟨after, -, -, hs⟩ := h
    rintro rfl
    cases hs
  unfold ending
  constructor
  · intro he
    cases hcut : splitName name with
    | none =>
      rw [hcut] at he
      exact absurd he.symm hne
    | some pair =>
      obtain ⟨stem, last⟩ := pair
      rw [hcut] at he
      obtain ⟨hstem, -, hname⟩ := splitName_eq_some_iff.1 hcut
      exact ⟨stem, hstem, by rw [hname, ← he]; rfl⟩
  · rintro ⟨stem, hstem, hname⟩
    rw [splitName_eq_some_iff.2 ⟨hstem, h, hname⟩]
    rfl

theorem stem_append (h : IsEnding suffix) (hs : stem ≠ "") : Path.stem (stem ++ suffix) = stem := by
  rw [Path.stem, splitName_eq_some_iff.2 ⟨hs, h, rfl⟩]
  rfl

end Path

end Greenlight
