import Greenlight.Proofs.Text.Occurrences
import Greenlight.Text.Blank
import Greenlight.Text.LowerCase

/-! # What lower case depends on

Lower case looks at the characters around a capital sigma. With the two small sigmas taken as one letter it
goes character by character. Main statement: a plain text is found in lower case where it is found
character by character, so that the neighbours do not matter to it. A text has the same digits and marks in
lower case. -/

namespace Greenlight.Text

/-- The two small sigmas as one letter. -/
def foldSigma (c : Char) : Char := if c = 'ς' then 'σ' else c

/-- The lower case of a character, whatever stands around it. -/
def lowerForm (c : Char) : List Char := (lowerBetween [] c []).map foldSigma

/-- Printable characters of the first block. -/
def IsPlainPattern (cs : List Char) : Prop := ∀ c ∈ cs, 32 ≤ c.toNat ∧ c.toNat < 127

instance (cs : List Char) : Decidable (IsPlainPattern cs) :=
  decidable_of_iff (cs.all fun c => 32 ≤ c.toNat ∧ c.toNat < 127) (by simp [IsPlainPattern])

variable {c d : Char} {cs text : List Char}

theorem foldSigma_eq_iff (hc : c ≠ 'σ') (hs : c ≠ 'ς') : foldSigma d = c ↔ d = c := by
  unfold foldSigma
  by_cases hd : d = 'ς'
  · subst hd
    simp [hc.symm, hs.symm]
  · simp [hd]

theorem map_foldSigma_lowerBetween (before : List Char) (c : Char) (after : List Char) :
    (lowerBetween before c after).map foldSigma = lowerForm c := by
  unfold lowerForm lowerBetween
  by_cases hc : c = 'Σ'
  · cases h : endsWord before after <;> simp [hc, foldSigma, endsWord, meetsCased]
  · simp [hc]

theorem map_foldSigma_lowerAfter (before text : List Char) :
    (lowerAfter before text).map foldSigma = text.flatMap lowerForm := by
  induction text generalizing before with
  | nil => rfl
  | cons c rest ih =>
    rw [lowerAfter, List.map_append, map_foldSigma_lowerBetween, ih, List.flatMap_cons]

theorem IsPlainPattern.infix_lowerChars_iff (h : IsPlainPattern cs) :
    cs <:+: lowerChars text ↔ cs <:+: text.flatMap lowerForm := by
  rw [← map_foldSigma_lowerAfter [] text]
  refine (infix_map_iff_of_kept fun c hc d => ?_).symm
  have hlt : c.toNat < 127 := (h c hc).2
  apply foldSigma_eq_iff
  · rintro rfl
    exact absurd hlt (by decide)
  · rintro rfl
    exact absurd hlt (by decide)

theorem lowerForm_lineFeed : lowerForm '\n' = ['\n'] := by
  decide

/-- A plain text is found in a longer text when it is found in a part of it. -/
theorem IsPlainPattern.infix_lowerChars_append (h : IsPlainPattern cs) (before after : List Char)
    (hc : cs <:+: lowerChars text) : cs <:+: lowerChars (before ++ text ++ after) := by
  rw [h.infix_lowerChars_iff] at hc ⊢
  rw [List.flatMap_append, List.flatMap_append]
  exact hc.trans (List.infix_append _ _ _)

/-- A plain text is found in two texts with a line end between them when it is found in one of them. -/
theorem IsPlainPattern.infix_lowerChars_lineFeed_iff (h : IsPlainPattern cs) (before after : List Char) :
    cs <:+: lowerChars (before ++ '\n' :: after) ↔
      cs <:+: lowerChars before ∨ cs <:+: lowerChars after := by
  have hfeed : '\n' ∉ cs := fun hm => absurd (h '\n' hm).1 (by decide)
  rw [h.infix_lowerChars_iff, h.infix_lowerChars_iff, h.infix_lowerChars_iff, List.flatMap_append,
    List.flatMap_cons, lowerForm_lineFeed, List.singleton_append, infix_append_cons_iff hfeed]

/-! ## Characters without case -/

/-- Every run leads to small letters or behind them. -/
theorem le_of_mem_lowerRuns : ∀ run ∈ lowerRuns, 97 ≤ (run.1 : Int) + run.2.2.2 := by
  decide +kernel

theorem toNat_ofNat_eq_or (n : Nat) : (Char.ofNat n).toNat = n ∨ (Char.ofNat n).toNat = 0 := by
  by_cases h : n.isValidChar
  · left
    rw [Char.ofNat, dif_pos h]
    rfl
  · right
    rw [Char.ofNat, dif_neg h]
    rfl

theorem toLower_eq_or (c : Char) : c.toLower = c ∨ 97 ≤ c.toLower.toNat := by
  unfold Char.toLower
  split
  · next h =>
    have hlow : 65 ≤ c.val.toNat := UInt32.le_iff_toNat_le.1 h.1
    have hhigh : c.val.toNat ≤ 90 := UInt32.le_iff_toNat_le.1 h.2
    have hshift : ('a'.val - 'A'.val).toNat = 32 := by decide
    right
    rw [Char.toNat, UInt32.toNat_add, hshift]
    omega
  · exact .inl rfl

/-- A character that has a partner does not become a mark. -/
theorem lowerPartner_eq_or (c : Char) :
    lowerPartner c = c ∨ 97 ≤ (lowerPartner c).toNat ∨ (lowerPartner c).toNat = 0 := by
  simp only [lowerPartner]
  split
  · exact (toLower_eq_or c).imp_right .inl
  · cases hr : lowerRuns.find? _ with
    | none => exact .inl rfl
    | some run =>
      have hrun := List.find?_some hr
      have hshift := le_of_mem_lowerRuns run (List.mem_of_find?_eq_some hr)
      simp only [Bool.and_eq_true, decide_eq_true_eq] at hrun
      right
      rcases toNat_ofNat_eq_or ((c.toNat : Int) + run.2.2.2).toNat with hn | hn
      · left
        rw [hn]
        omega
      · exact .inr hn

/-- A printable character before the letters. -/
def IsMark (d : Char) : Prop := 32 ≤ d.toNat ∧ d.toNat < 65

instance (d : Char) : Decidable (IsMark d) := inferInstanceAs (Decidable (_ ∧ _))

theorem lowerPartner_eq_mark_iff (hd : IsMark d) : lowerPartner c = d ↔ c = d := by
  obtain ⟨hlow, hhigh⟩ := hd
  constructor
  · intro h
    rcases lowerPartner_eq_or c with he | hn | hn
    · rw [← he, h]
    · rw [h] at hn
      omega
    · rw [h] at hn
      omega
  · rintro rfl
    have hletter : ¬('A'.val ≤ c.val ∧ c.val ≤ 'Z'.val) := fun h =>
      absurd (UInt32.le_iff_toNat_le.1 h.1) (Nat.not_le.2 hhigh)
    have hfirst : c.toNat < 128 := by omega
    simp only [lowerPartner, hfirst, if_true]
    exact dif_neg hletter

theorem mem_lowerForm_iff (hd : IsMark d) : d ∈ lowerForm c ↔ c = d := by
  have hne {l : Char} (hl : 65 ≤ l.toNat) : d ≠ l := by
    rintro rfl
    exact absurd hd.2 (Nat.not_lt.2 hl)
  have hfold {e : Char} : foldSigma e = d ↔ e = d :=
    foldSigma_eq_iff (hne (by decide)) (hne (by decide))
  have hsigma : 'Σ' ≠ d := (hne (by decide)).symm
  have hdotted : 'İ' ≠ d := (hne (by decide)).symm
  unfold lowerForm lowerBetween
  by_cases hs : c = 'Σ'
  · subst hs
    simp [hsigma, endsWord, meetsCased, foldSigma, hne (l := 'σ') (by decide)]
  · by_cases hi : c = 'İ'
    · subst hi
      simp [hdotted, foldSigma, hne (l := 'i') (by decide), hne (l := '̇') (by decide)]
    · simp [hs, hi, eq_comm (a := d), hfold, lowerPartner_eq_mark_iff hd]

/-- A mark stands in lower case where it stands in the text. -/
theorem mem_lowerChars_iff (hd : IsMark d) : d ∈ lowerChars text ↔ d ∈ text := by
  have hplain : IsPlainPattern [d] := fun e he => by
    obtain rfl := List.mem_singleton.1 he
    exact ⟨hd.1, hd.2.trans (by decide)⟩
  rw [← List.singleton_infix_iff, hplain.infix_lowerChars_iff, List.singleton_infix_iff,
    List.mem_flatMap]
  simp [mem_lowerForm_iff hd]

theorem lowerBetween_ne_nil (before : List Char) (c : Char) (after : List Char) :
    lowerBetween before c after ≠ [] := by
  unfold lowerBetween
  split
  · exact List.cons_ne_nil _ _
  · split <;> exact List.cons_ne_nil _ _

theorem length_le_lowerAfter (before text : List Char) :
    text.length ≤ (lowerAfter before text).length := by
  induction text generalizing before with
  | nil => exact Nat.le_refl 0
  | cons c rest ih =>
    have hone := List.length_pos_of_ne_nil (lowerBetween_ne_nil before c rest)
    have hrest := ih (c :: before)
    rw [lowerAfter, List.length_append, List.length_cons]
    omega

/-- Only a mark itself becomes a mark. -/
theorem eq_of_lowerChars_eq_mark (hd : IsMark d) (h : lowerChars text = [d]) : text = [d] := by
  have hmem : d ∈ text := by
    rw [← mem_lowerChars_iff hd, h]
    exact List.mem_singleton_self d
  have hle := length_le_lowerAfter [] text
  rw [← lowerChars, h, List.length_singleton] at hle
  have hone : text.length = 1 := Nat.le_antisymm hle (List.length_pos_of_mem hmem)
  obtain ⟨e, rfl⟩ := List.length_eq_one_iff.1 hone
  rw [List.mem_singleton.1 hmem]

/-! ## Blanks -/

/-- The numbers of the blanks. -/
def blankNumbers : List Nat :=
  [9, 10, 11, 12, 13, 28, 29, 30, 31, 32, 0x85, 0xA0, 0x1680, 0x2000, 0x2001, 0x2002, 0x2003, 0x2004,
    0x2005, 0x2006, 0x2007, 0x2008, 0x2009, 0x200A, 0x2028, 0x2029, 0x202F, 0x205F, 0x3000]

theorem toNat_mem_blankNumbers (h : isBlank c = true) : c.toNat ∈ blankNumbers := by
  simp only [isBlank, Bool.or_eq_true, Bool.and_eq_true, decide_eq_true_eq, beq_iff_eq] at h
  simp only [blankNumbers, List.mem_cons, List.not_mem_nil]
  omega

theorem lowerForm_of_isBlank (h : isBlank c = true) : lowerForm c = [c] := by
  have hall : ∀ n ∈ blankNumbers, lowerForm (Char.ofNat n) = [Char.ofNat n] := by
    decide +kernel
  have hc := hall c.toNat (toNat_mem_blankNumbers h)
  rwa [Char.ofNat_toNat] at hc

/-- A blank stays in the text. -/
theorem mem_lowerChars_of_isBlank (h : isBlank c = true) (hm : c ∈ text) : c ∈ lowerChars text := by
  have hform : c ∈ (lowerChars text).map foldSigma := by
    rw [lowerChars, map_foldSigma_lowerAfter, List.mem_flatMap]
    exact ⟨c, hm, by rw [lowerForm_of_isBlank h, List.mem_singleton]⟩
  obtain ⟨d, hd, hfold⟩ := List.mem_map.1 hform
  have hdc : d = c := by
    refine (foldSigma_eq_iff ?_ ?_).1 hfold
    · rintro rfl
      exact absurd h (by decide)
    · rintro rfl
      exact absurd h (by decide)
  exact hdc ▸ hd

end Greenlight.Text
