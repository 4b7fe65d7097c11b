import Greenlight.Text.Pieces
import Mathlib.Data.List.Basic
import Mathlib.Data.List.TakeWhile

/-! # Cutting and joining

Joining undoes cutting. Cutting a joined text gives the pieces of its parts, so that two joined texts are
equal exactly when their parts have the same pieces. Numbers that are filled up with zeros are read back
from their digits. -/

namespace Greenlight.Text

variable {sep : Char}

/-! ## Rows of characters -/

/-- A change that keeps every element keeps the row. -/
theorem map_eq_self {α : Type} {f : α → α} {xs : List α} (h : ∀ x ∈ xs, f x = x) : xs.map f = xs := by
  conv => rhs; rw [← List.map_id xs]
  exact List.map_congr_left h

theorem piecesChars_ne_nil (sep : Char) (cs : List Char) : piecesChars sep cs ≠ [] := by
  cases cs with
  | nil => exact List.cons_ne_nil _ _
  | cons c rest =>
    unfold piecesChars
    split
    · exact List.cons_ne_nil _ _
    · split <;> exact List.cons_ne_nil _ _

theorem piecesChars_of_not_mem {cs : List Char} (h : sep ∉ cs) : piecesChars sep cs = [cs] := by
  induction cs with
  | nil => rfl
  | cons c rest ih =>
    rw [List.mem_cons, not_or] at h
    rw [piecesChars, if_neg (Ne.symm h.1), ih h.2]

/-- What stands before a separator and what stands behind it are cut each on its own. -/
theorem piecesChars_append_cons (before after : List Char) :
    piecesChars sep (before ++ sep :: after) = piecesChars sep before ++ piecesChars sep after := by
  induction before with
  | nil => simp [piecesChars]
  | cons c rest ih =>
    by_cases hc : c = sep
    · simp [piecesChars, hc, ih]
    · obtain ⟨first, more, hpieces⟩ := List.exists_cons_of_ne_nil (piecesChars_ne_nil sep rest)
      simp [piecesChars, hc, ih, hpieces]

theorem piecesChars_joinChars {parts : List (List Char)} (h : parts ≠ []) :
    piecesChars sep (joinChars [sep] parts) = parts.flatMap (piecesChars sep) := by
  induction parts with
  | nil => exact absurd rfl h
  | cons part more ih =>
    cases more with
    | nil => simp [joinChars]
    | cons next more =>
      rw [joinChars, List.append_assoc, List.singleton_append, piecesChars_append_cons,
        ih (List.cons_ne_nil next more)]
      · rfl
      · exact List.cons_ne_nil next more

theorem joinChars_piecesChars (sep : Char) (cs : List Char) :
    joinChars [sep] (piecesChars sep cs) = cs := by
  induction cs with
  | nil => rfl
  | cons c rest ih =>
    obtain ⟨first, more, hpieces⟩ := List.exists_cons_of_ne_nil (piecesChars_ne_nil sep rest)
    rw [hpieces] at ih
    by_cases hc : c = sep
    · rw [piecesChars, if_pos hc, hpieces, joinChars, ih, hc]
      · rfl
      · exact List.cons_ne_nil _ _
    · rw [piecesChars, if_neg hc, hpieces]
      cases more <;> simpa [joinChars] using ih

theorem mem_joinChars_iff {c : Char} {between : List Char} (hc : c ∉ between)
    (parts : List (List Char)) : c ∈ joinChars between parts ↔ ∃ part ∈ parts, c ∈ part := by
  induction parts with
  | nil => simp [joinChars]
  | cons part more ih =>
    cases more with
    | nil => simp [joinChars]
    | cons next more =>
      rw [joinChars, List.mem_append, List.mem_append, ih]
      · simp [hc]
      · exact List.cons_ne_nil next more

/-- A piece holds no separator, and no character that the text does not hold. -/
theorem of_mem_piecesChars {cs piece : List Char} {c : Char} (hp : piece ∈ piecesChars sep cs)
    (hc : c ∈ piece) : c ≠ sep ∧ c ∈ cs := by
  induction cs generalizing piece with
  | nil =>
    rw [List.mem_singleton.1 hp] at hc
    cases hc
  | cons d rest ih =>
    obtain ⟨first, more, hpieces⟩ := List.exists_cons_of_ne_nil (piecesChars_ne_nil sep rest)
    have hrest {piece : List Char} (hp : piece ∈ first :: more) (hc : c ∈ piece) :
        c ≠ sep ∧ c ∈ d :: rest :=
      (ih (hpieces ▸ hp) hc).imp_right (List.mem_cons_of_mem d)
    by_cases hd : d = sep
    · rw [piecesChars, if_pos hd, hpieces, List.mem_cons] at hp
      rcases hp with rfl | hp
      · cases hc
      · exact hrest hp hc
    · rw [piecesChars, if_neg hd, hpieces, List.mem_cons] at hp
      rcases hp with rfl | hp
      · rcases List.mem_cons.1 hc with rfl | hc
        · exact ⟨hd, List.mem_cons_self⟩
        · exact hrest List.mem_cons_self hc
      · exact hrest (List.mem_cons_of_mem first hp) hc

/-- What stands before the first separator and behind it. -/
theorem cutAtFirst_append_cons {before after : List Char} (h : sep ∉ before) :
    cutAtFirst sep (before ++ sep :: after) = some (before, after) := by
  have hbefore : ∀ c ∈ before, decide (c ≠ sep) = true := fun c hc =>
    decide_eq_true fun he => h (he ▸ hc)
  rw [cutAtFirst, List.dropWhile_append_of_pos hbefore, List.takeWhile_append_of_pos hbefore]
  simp

theorem cutAtFirst_of_not_mem {cs : List Char} (h : sep ∉ cs) : cutAtFirst sep cs = none := by
  have hnil : cs.dropWhile (· ≠ sep) = [] :=
    List.dropWhile_eq_nil_iff.2 fun c hc => decide_eq_true fun he => h (he ▸ hc)
  rw [cutAtFirst, hnil]

theorem cutAtFirst_eq_some_iff {cs before after : List Char} :
    cutAtFirst sep cs = some (before, after) ↔ sep ∉ before ∧ cs = before ++ sep :: after := by
  constructor
  · intro h
    by_cases hm : sep ∈ cs
    · obtain ⟨front, back, hcs, hfront⟩ := List.eq_append_cons_of_mem hm
      rw [hcs, cutAtFirst_append_cons hfront] at h
      cases h
      exact ⟨hfront, hcs⟩
    · rw [cutAtFirst_of_not_mem hm] at h
      cases h
  · rintro ⟨hbefore, rfl⟩
    exact cutAtFirst_append_cons hbefore

/-- A text is cut at its last separator when the rest holds none. -/
theorem cutAtLast_eq_some_iff {cs before after : List Char} :
    cutAtLast sep cs = some (before, after) ↔ sep ∉ after ∧ cs = before ++ sep :: after := by
  rw [cutAtLast, Option.map_eq_some_iff]
  constructor
  · rintro ⟨⟨back, front⟩, hcut, ⟨⟩⟩
    obtain ⟨hback, hcs⟩ := cutAtFirst_eq_some_iff.1 hcut
    rw [List.reverse_eq_append_iff] at hcs
    exact ⟨fun hm => hback (List.mem_reverse.1 hm), by simpa using hcs⟩
  · rintro ⟨hafter, rfl⟩
    refine ⟨(after.reverse, before.reverse), cutAtFirst_eq_some_iff.2 ⟨?_, by simp⟩, by simp⟩
    exact fun hm => hafter (List.mem_reverse.1 hm)

/-! ## Texts -/

theorem pieces_of_not_mem {s : String} (h : sep ∉ s.toList) : pieces sep s = [s] := by
  rw [pieces, piecesChars_of_not_mem h, List.map_singleton, String.ofList_toList]

theorem pieces_ne_nil (sep : Char) (s : String) : pieces sep s ≠ [] := by
  simpa [pieces] using piecesChars_ne_nil sep s.toList

theorem map_toList_pieces (sep : Char) (s : String) :
    (pieces sep s).map String.toList = piecesChars sep s.toList := by
  simp [pieces]

variable {mark : String} {parts others : List String}

/-- A joined text has the pieces of its parts. -/
theorem pieces_join (hm : mark.toList = [sep]) (h : parts ≠ []) :
    pieces sep (join mark parts) = parts.flatMap (pieces sep) := by
  have hchars : parts.map String.toList ≠ [] := by simpa using h
  rw [pieces, join, String.toList_ofList, hm, piecesChars_joinChars hchars, List.flatMap_map,
    List.map_flatMap]
  rfl

theorem flatMap_pieces_of_not_mem (h : ∀ part ∈ parts, sep ∉ part.toList) :
    parts.flatMap (pieces sep) = parts := by
  rw [List.flatMap_congr fun part hp => pieces_of_not_mem (h part hp)]
  exact List.flatMap_singleton' parts

/-- Parts without the separator are cut apart again. -/
theorem pieces_join_of_not_mem (hm : mark.toList = [sep]) (h : parts ≠ [])
    (hparts : ∀ part ∈ parts, sep ∉ part.toList) : pieces sep (join mark parts) = parts := by
  rw [pieces_join hm h, flatMap_pieces_of_not_mem hparts]

theorem join_pieces (hm : mark.toList = [sep]) (s : String) : join mark (pieces sep s) = s := by
  rw [join, map_toList_pieces, hm, joinChars_piecesChars, String.ofList_toList]

theorem join_singleton (mark part : String) : join mark [part] = part := by
  simp [join, joinChars]

theorem join_cons_cons (mark first next : String) (more : List String) :
    join mark (first :: next :: more) = first ++ mark ++ join mark (next :: more) := by
  apply String.toList_inj.1
  simp [join, joinChars]

theorem mem_toList_join_iff {c : Char} (hc : c ∉ mark.toList) :
    c ∈ (join mark parts).toList ↔ ∃ part ∈ parts, c ∈ part.toList := by
  rw [join, String.toList_ofList, mem_joinChars_iff hc]
  simp

theorem of_mem_pieces {s piece : String} {c : Char} (hp : piece ∈ pieces sep s)
    (hc : c ∈ piece.toList) : c ≠ sep ∧ c ∈ s.toList := by
  obtain ⟨chars, hchars, rfl⟩ := List.mem_map.1 hp
  rw [String.toList_ofList] at hc
  exact of_mem_piecesChars hchars hc

/-- Joined texts are equal when their parts have the same pieces. -/
theorem join_eq_join_iff (hm : mark.toList = [sep]) (h : parts ≠ []) (ho : others ≠ []) :
    join mark parts = join mark others ↔
      parts.flatMap (pieces sep) = others.flatMap (pieces sep) := by
  constructor
  · intro he
    rw [← pieces_join hm h, he, pieces_join hm ho]
  · intro he
    calc join mark parts
        = join mark (parts.flatMap (pieces sep)) := by rw [← pieces_join hm h, join_pieces hm]
      _ = join mark (others.flatMap (pieces sep)) := congrArg _ he
      _ = join mark others := by rw [← pieces_join hm ho, join_pieces hm]

/-! ## Padded numbers -/

/-- A padded number consists of digits. -/
theorem isDigit_of_mem_paddedNat {width n : Nat} {c : Char} (h : c ∈ (paddedNat width n).toList) :
    c.isDigit = true := by
  rw [paddedNat, String.toList_append, String.toList_ofList, List.mem_append] at h
  rcases h with h | h
  · rw [List.eq_of_mem_replicate h]
    rfl
  · rw [Nat.repr_eq_ofList_toDigits, String.toList_ofList] at h
    exact Nat.isDigit_of_mem_toDigits (by decide) (by decide) h

/-- The zeros in front do not count. -/
theorem ofDigitChars_paddedNat (width n : Nat) :
    Nat.ofDigitChars 10 (paddedNat width n).toList 0 = n := by
  rw [paddedNat, String.toList_append, String.toList_ofList, Nat.ofDigitChars_append,
    Nat.ofDigitChars_replicate_zero, Nat.mul_zero, Nat.repr_eq_ofList_toDigits, String.toList_ofList,
    Nat.ofDigitChars_ten_toDigits]

theorem paddedNat_inj {width m n : Nat} : paddedNat width m = paddedNat width n ↔ m = n := by
  constructor
  · intro h
    rw [← ofDigitChars_paddedNat width m, h, ofDigitChars_paddedNat]
  · rintro rfl
    rfl

end Greenlight.Text
