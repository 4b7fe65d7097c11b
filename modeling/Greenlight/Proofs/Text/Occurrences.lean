import Greenlight.Proofs.Text.Pieces
import Mathlib.Data.List.Infix

/-! # Texts inside texts

Where a text can occur in a longer one: not across a character that it does not hold, and not at a place
that a change of other characters touches. -/

namespace Greenlight.Text

variable {cs ds text : List Char} {c : Char}

theorem occursIn_iff : occursIn cs text = true ↔ cs <:+: text := by
  induction text with
  | nil => simp [occursIn]
  | cons d rest ih =>
    rw [occursIn, Bool.or_eq_true, ih, List.isPrefixOf_iff_prefix, List.infix_cons_iff]

/-- A character that a text does not hold keeps what stands before it apart from what stands behind. -/
theorem infix_append_cons_iff (h : c ∉ cs) : cs <:+: ds ++ c :: text ↔ cs <:+: ds ∨ cs <:+: text := by
  rw [List.infix_append_iff, List.infix_cons_iff]
  have hnone : ∀ start, start <+: c :: text → c ∉ start → start = [] := by
    intro start hs hc
    cases start with
    | nil => rfl
    | cons d rest =>
      obtain rfl := (List.cons_prefix_cons.1 hs).1
      exact absurd List.mem_cons_self hc
  constructor
  · rintro (hbefore | (hstart | hafter) | ⟨back, start, rfl, hback, hstart⟩)
    · exact .inl hbefore
    · rw [hnone cs hstart h]
      exact .inl List.nil_infix
    · exact .inr hafter
    · have hnil : start = [] := hnone start hstart fun hc => h (List.mem_append_right _ hc)
      rw [hnil, List.append_nil]
      exact .inl hback.isInfix
  · rintro (hbefore | hafter)
    · exact .inl hbefore
    · exact .inr (.inl (.inr hafter))

theorem infix_replicate_append_iff (h : c ∉ cs) (n : Nat) :
    cs <:+: List.replicate n c ++ text ↔ cs <:+: text := by
  induction n with
  | zero => simp
  | succ n ih =>
    rw [List.replicate_succ, List.cons_append, ← List.nil_append (c :: _), infix_append_cons_iff h, ih,
      or_iff_right_iff_imp]
    intro hnil
    rw [List.infix_nil.1 hnil]
    exact List.nil_infix

/-- A change that makes no character of a text, and keeps those that it holds, does not matter to it. -/
theorem infix_map_iff_of_kept {f : Char → Char} (h : ∀ c ∈ cs, ∀ d, f d = c ↔ d = c) :
    cs <:+: text.map f ↔ cs <:+: text := by
  have hkept : cs.map f = cs := map_eq_self fun c hc => (h c hc c).2 rfl
  constructor
  · rw [List.infix_map_iff]
    rintro ⟨found, hfound, rfl⟩
    have hsame : found.map f = found :=
      map_eq_self fun d hd => ((h (f d) (List.mem_map_of_mem hd) d).1 rfl).symm
    rwa [hsame]
  · intro hc
    rw [← hkept]
    exact hc.map f

end Greenlight.Text
