import Greenlight.Campaign.Setup
import Greenlight.Proofs.Path

/-! # Log files

The log files of a task stand in the log folder, whatever the id of the task is: their names hold
neither a slash nor the character zero. -/

namespace Greenlight

/-! ## Plain names -/

/-- A text of characters that a file name keeps. -/
def Setup.IsPlainText (s : String) : Prop := ∀ c ∈ s.toList, Setup.isPlain c = true

namespace Setup

instance : DecidablePred IsPlainText := fun s =>
  List.decidableBAll (isPlain · = true) s.toList

variable {s other : String}

theorem IsPlainText.append (h : IsPlainText s) (ho : IsPlainText other) : IsPlainText (s ++ other) := by
  unfold IsPlainText at *
  rw [String.toList_append, List.forall_mem_append]
  exact ⟨h, ho⟩

theorem isPlain_of_isDigit {c : Char} (h : c.isDigit = true) : isPlain c = true := by
  simp [isPlain, Char.isAlphanum, h]

theorem isPlainText_plainName (s : String) : IsPlainText (plainName s) := by
  unfold IsPlainText plainName
  rw [String.toList_ofList]
  generalize false = replacing
  induction s.toList generalizing replacing with
  | nil => simp [plainNameFrom]
  | cons c rest ih =>
    unfold plainNameFrom
    split
    · next h => exact List.forall_mem_cons.2 ⟨h, ih false⟩
    · split
      · exact ih true
      · exact List.forall_mem_cons.2 ⟨rfl, ih true⟩

theorem isPlainText_paddedNat (width n : Nat) : IsPlainText (Text.paddedNat width n) :=
  fun _ hc => isPlain_of_isDigit (Text.isDigit_of_mem_paddedNat hc)

theorem isPlainText_paddedInt (width : Nat) (n : Int) : IsPlainText (Text.paddedInt width n) := by
  unfold Text.paddedInt
  split
  · exact IsPlainText.append (by decide) (isPlainText_paddedNat _ _)
  · exact isPlainText_paddedNat _ _

theorem isPlainText_logStem (sequence : Option Int) (id : String) :
    IsPlainText (logStem sequence id) := by
  cases sequence with
  | none => exact isPlainText_plainName id
  | some n =>
    refine ((isPlainText_paddedInt 2 n).append ?_).append (isPlainText_plainName id)
    decide

/-! ## Names for log files -/

/-- A name for a file in the log folder. -/
structure IsLogName (name : String) : Prop where
  plain : IsPlainText name
  kept : Path.isKept name = true

/-- An ending of two characters or more keeps a name from standing for a folder. -/
theorem isLogName_append {stem suffix : String} (h : IsPlainText stem) (hs : IsPlainText suffix)
    (hsize : 2 ≤ suffix.length) : IsLogName (stem ++ suffix) where
  plain := h.append hs
  kept := by
    have hne (short : String) (hshort : short.length < 2) : stem ++ suffix ≠ short := by
      rintro rfl
      rw [String.length_append] at hshort
      omega
    simp [Path.isKept, hne "" (by decide), hne "." (by decide)]

theorem isLogName_stdout (sequence : Option Int) (id : String) :
    IsLogName (logStem sequence id ++ ".stdout.log") :=
  isLogName_append (isPlainText_logStem sequence id) (by decide) (by decide)

theorem isLogName_stderr (sequence : Option Int) (id : String) :
    IsLogName (logStem sequence id ++ ".stderr.log") :=
  isLogName_append (isPlainText_logStem sequence id) (by decide) (by decide)

namespace IsLogName

variable {name : String} (h : IsLogName name)
include h

theorem child_eq (p : Path) : p.child name = ⟨p.start, p.names ++ [name]⟩ :=
  p.child_eq (fun hm => absurd (h.plain _ hm) (by decide)) h.kept

theorem parent_child (p : Path) : (p.child name).parent = p := by
  rw [h.child_eq, Path.parent, List.dropLast_concat]

theorem isNameable_child {p : Path} (hp : FileTree.isNameable p.text = true) :
    FileTree.isNameable (p.child name).text = true := by
  rw [isNameable_text_iff] at hp
  rw [h.child_eq, isNameable_text_iff, List.forall_mem_append, List.forall_mem_singleton,
    isNameable_iff]
  exact ⟨hp, fun hm => absurd (h.plain _ hm) (by decide)⟩

end IsLogName

end Setup

end Greenlight
