import Greenlight.Proofs.Json.Numbers
import Mathlib.Tactic.SplitIfs

/-! # Values are written in ASCII

Main statement: whatever the texts of a value hold, its written form is ASCII. -/

namespace Greenlight.Json

open Decimal

/-- All characters are ASCII. -/
def IsAscii (cs : List Char) : Prop := ∀ c ∈ cs, c.toNat < 128

instance (cs : List Char) : Decidable (IsAscii cs) :=
  decidable_of_iff (cs.all fun c => c.toNat < 128) (by simp [IsAscii])

section

variable {cs more : List Char}

@[simp] theorem isAscii_nil : IsAscii [] := nofun

@[simp] theorem isAscii_cons {c : Char} : IsAscii (c :: cs) ↔ c.toNat < 128 ∧ IsAscii cs :=
  List.forall_mem_cons

@[simp] theorem isAscii_append : IsAscii (cs ++ more) ↔ IsAscii cs ∧ IsAscii more :=
  List.forall_mem_append

theorem IsAscii.sublist (h : IsAscii more) (hs : cs.Sublist more) : IsAscii cs :=
  fun c hc => h c (hs.subset hc)

theorem isAscii_replicate (n : Nat) {c : Char} (h : c.toNat < 128) : IsAscii (List.replicate n c) :=
  fun _ hc => List.eq_of_mem_replicate hc ▸ h

end

/-! ## Numbers -/

theorem isAscii_of_isDigit {c : Char} (h : c.isDigit = true) : c.toNat < 128 := by
  simp only [Char.isDigit, Bool.and_eq_true, decide_eq_true_eq] at h
  exact lt_of_le_of_lt h.2 (by decide)

theorem isAscii_digitChars (n : Nat) : IsAscii (digitChars n) :=
  fun _ hc => isAscii_of_isDigit (isDigit_of_mem_digitChars hc)

theorem isAscii_intChars (n : Int) : IsAscii (intChars n) := by
  unfold intChars
  split <;> simp [isAscii_digitChars]

theorem isAscii_positional {cs : List Char} (h : IsAscii cs) (point : Int) :
    IsAscii (positional cs point).toList := by
  have hzeros (n : Nat) := isAscii_replicate n (c := '0') (by decide)
  unfold positional
  split_ifs
  · simp [h, hzeros]
  · simp [h.sublist (List.take_sublist ..), h.sublist (List.drop_sublist ..)]
  · simp [h, hzeros]

theorem isAscii_scientific {cs : List Char} (h : IsAscii cs) (exponent : Int) :
    IsAscii (scientific cs exponent).toList := by
  have hsize := isAscii_digitChars exponent.natAbs
  unfold scientific
  simp only [String.toList_ofList, isAscii_append, isAscii_cons]
  refine ⟨⟨h.sublist (List.take_sublist ..), ?_⟩, by decide, ?_, ?_⟩
  · split
    · exact isAscii_nil
    · exact isAscii_cons.2 ⟨by decide, h.sublist (List.drop_sublist 1 cs)⟩
  · split <;> decide
  · split <;> simp [hsize]

theorem isAscii_sizeChars (digits : Nat) (exponent : Int) : IsAscii (sizeChars digits exponent) := by
  have hdigits := isAscii_digitChars digits
  unfold sizeChars Decimal.text
  simp only [signText, Bool.false_eq_true, if_false, String.empty_append]
  split_ifs
  · decide
  · exact isAscii_positional hdigits _
  · rw [String.toList_append, isAscii_append]
    exact ⟨isAscii_positional hdigits _, by decide⟩
  · exact isAscii_scientific hdigits _

theorem isAscii_realChars (d : Decimal) : IsAscii (realChars d) := by
  cases d with
  | undefined => decide
  | infinite negative => cases negative <;> decide
  | finite negative digits exponent =>
    rw [realChars_finite]
    split
    · exact isAscii_cons.2 ⟨by decide, isAscii_sizeChars _ _⟩
    · exact isAscii_sizeChars _ _

/-! ## Texts -/

theorem isAscii_unicodeEscape (n : Nat) : IsAscii (unicodeEscape n) := by
  have hdigit : ∀ d < 16, (Nat.digitChar d).toNat < 128 := by decide
  refine isAscii_cons.2 ⟨by decide, isAscii_cons.2 ⟨by decide, fun c hc => ?_⟩⟩
  obtain ⟨i, -, rfl⟩ := List.mem_map.1 hc
  exact hdigit _ (Nat.mod_lt _ (by decide))

theorem isAscii_escapedChar (c : Char) : IsAscii (escapedChar c) := by
  unfold escapedChar
  split_ifs with hquote hslash hline hreturn htab hback hfeed hplain hfirst
  · decide
  · decide
  · decide
  · decide
  · decide
  · decide
  · decide
  · exact isAscii_cons.2 ⟨by omega, isAscii_nil⟩
  · exact isAscii_unicodeEscape _
  · exact isAscii_append.2 ⟨isAscii_unicodeEscape _, isAscii_unicodeEscape _⟩

theorem isAscii_textChars (s : String) : IsAscii (textChars s) := by
  have htext : IsAscii (s.toList.flatMap escapedChar) := fun c hc => by
    obtain ⟨d, -, hc⟩ := List.mem_flatMap.1 hc
    exact isAscii_escapedChar d c hc
  simp [textChars, htext]

/-! ## Values -/

theorem isAscii_newLine (level : Nat) : IsAscii (newLine level) :=
  isAscii_cons.2 ⟨by decide, isAscii_replicate _ (by decide)⟩

mutual

theorem isAscii_valueChars (level : Nat) : (json : Json) → IsAscii (valueChars level json)
  | .null => (by decide : IsAscii "null".toList)
  | .bool true => (by decide : IsAscii "true".toList)
  | .bool false => (by decide : IsAscii "false".toList)
  | .int n => isAscii_intChars n
  | .real d => isAscii_realChars d
  | .text s => isAscii_textChars s
  | .list [] => (by decide : IsAscii ['[', ']'])
  | .list (item :: rest) => by
    simp [valueChars, isAscii_newLine, isAscii_valueChars (level + 1) item,
      isAscii_itemsChars (level + 1) rest]
  | .object [] => (by decide : IsAscii ['\x7b', '\x7d'])
  | .object ((key, value) :: rest) => by
    simp [valueChars, isAscii_newLine, isAscii_textChars, isAscii_valueChars (level + 1) value,
      isAscii_entriesChars (level + 1) rest]

theorem isAscii_itemsChars (level : Nat) : (items : List Json) → IsAscii (itemsChars level items)
  | [] => isAscii_nil
  | item :: rest => by
    simp [itemsChars, isAscii_newLine, isAscii_valueChars level item, isAscii_itemsChars level rest]

theorem isAscii_entriesChars (level : Nat) :
    (entries : List (String × Json)) → IsAscii (entriesChars level entries)
  | [] => isAscii_nil
  | (key, value) :: rest => by
    simp [entriesChars, isAscii_newLine, isAscii_textChars, isAscii_valueChars level value,
      isAscii_entriesChars level rest]

end

/-- The written form of every value is ASCII. -/
theorem isAscii_write (json : Json) : IsAscii json.write.toList := by
  rw [write, String.toList_ofList]
  exact isAscii_valueChars 0 json

end Greenlight.Json
