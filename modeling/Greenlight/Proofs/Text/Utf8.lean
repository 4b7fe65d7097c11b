import Greenlight.Text.Utf8
import Mathlib.Data.List.Basic

/-! # Bytes that are cut off

A byte text that lost its start is read like the whole one from some character on. Main statement: in front
of that character stand replacement characters only, for what is left of a character that was cut. -/

namespace Greenlight.Text

/-- The character that stands for a piece. -/
def Utf8Piece.shown : Utf8Piece → Char
  | .char c _ => c
  | .defect _ _ => '\uFFFD'

variable {b : UInt8} {rest : List UInt8}

theorem decodeLossy_nil : decodeLossy [] = [] := by
  rw [decodeLossy, utf8Pieces, List.map_nil]

theorem decodeLossy_cons (b : UInt8) (rest : List UInt8) :
    decodeLossy (b :: rest) =
      (utf8Piece b rest).shown :: decodeLossy (rest.drop (utf8Piece b rest).more) := by
  rw [decodeLossy, utf8Pieces]
  rfl

/-- A byte that stands second or later starts no character. -/
theorem utf8Piece_of_isTail (h : isTail b = true) (rest : List UInt8) :
    utf8Piece b rest = .defect .startByte 0 := by
  simp only [isTail, Bool.and_eq_true, decide_eq_true_eq, UInt8.le_iff_toNat_le,
    UInt8.lt_iff_toNat_lt] at h
  have hascii : ¬b < 0x80 := by
    rw [UInt8.lt_iff_toNat_lt]
    exact Nat.not_lt.2 h.1
  have hstart : b < 0xC2 := by
    rw [UInt8.lt_iff_toNat_lt]
    exact Nat.lt_trans h.2 (by decide)
  simp [utf8Piece, hascii, hstart]

/-- The bytes after the first of a piece are there, and none of them starts a character. -/
theorem utf8Piece_more (b : UInt8) (rest : List UInt8) :
    (utf8Piece b rest).more ≤ rest.length ∧
      ∀ x ∈ rest.take (utf8Piece b rest).more, isTail x = true := by
  have hsecond : ∀ x, isSecond b x = true → isTail x = true := by
    intro x hx
    rw [isSecond, Bool.and_eq_true] at hx
    exact hx.1
  fun_cases utf8Piece b rest <;> simp_all [Utf8Piece.more]

theorem decodeLossy_tails {tails : List UInt8} (h : ∀ x ∈ tails, isTail x = true)
    (rest : List UInt8) :
    decodeLossy (tails ++ rest) = List.replicate tails.length '\uFFFD' ++ decodeLossy rest := by
  induction tails with
  | nil => rfl
  | cons x more ih =>
    rw [List.forall_mem_cons] at h
    rw [List.cons_append, decodeLossy_cons, utf8Piece_of_isTail h.1, List.length_cons,
      List.replicate_succ, List.cons_append, ← ih h.2]
    rfl

/-- What is read behind a cut: replacement characters, and then the end of what is read in all. -/
theorem exists_decodeLossy_drop (bytes : List UInt8) (n : Nat) :
    ∃ k kept, decodeLossy (bytes.drop n) = List.replicate k '\uFFFD' ++ kept ∧
      kept <:+ decodeLossy bytes := by
  fun_induction utf8Pieces bytes generalizing n with
  | case1 => exact ⟨0, [], by simp [decodeLossy_nil], List.nil_suffix⟩
  | case2 b rest piece ih =>
    have hsuffix : decodeLossy (rest.drop piece.more) <:+ decodeLossy (b :: rest) := by
      rw [decodeLossy_cons]
      exact List.suffix_cons _ _
    cases n with
    | zero => exact ⟨0, decodeLossy (b :: rest), rfl, List.suffix_rfl⟩
    | succ n =>
      by_cases hn : piece.more ≤ n
      · -- the cut lies behind the first piece
        obtain ⟨k, kept, hk, hkept⟩ := ih (n - piece.more)
        rw [List.drop_drop, Nat.add_sub_cancel' hn] at hk
        exact ⟨k, kept, hk, hkept.trans hsuffix⟩
      · -- the cut lies within it, and what is left of it are tails
        have hlength : piece.more ≤ rest.length := (utf8Piece_more b rest).1
        have htails : ∀ x ∈ rest.take piece.more, isTail x = true := (utf8Piece_more b rest).2
        have hsplit : rest.drop n =
            (rest.take piece.more).drop n ++ rest.drop piece.more := by
          conv => lhs; rw [← List.take_append_drop piece.more rest]
          rw [List.drop_append_of_le_length]
          rw [List.length_take]
          omega
        refine ⟨((rest.take piece.more).drop n).length, decodeLossy (rest.drop piece.more), ?_,
          hsuffix⟩
        rw [List.drop_succ_cons, hsplit]
        exact decodeLossy_tails (fun x hx => htails x (List.mem_of_mem_drop hx)) _

end Greenlight.Text
