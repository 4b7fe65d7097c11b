import Greenlight.Text.Blank
import Greenlight.Text.Lines
import Mathlib.Data.List.Basic

/-! # What the lines of a text are

Lines are said by rules, apart from how a text is cut. Main statements: a text is cut into its lines and no
others, and a text that ends with a character of a line has this character at the end of its last line. -/

namespace Greenlight.Text

/-- A text and its lines. A line end of one or of two characters closes a line; what stands behind the last
line end is a line as well, unless nothing does. -/
inductive CutsInto : List Char → List (List Char) → Prop where
  | nil : CutsInto [] []
  | last {line} (hne : line ≠ []) (hl : ∀ c ∈ line, isLineEnd c = false) : CutsInto line [line]
  | closed {line c rest lines} (hl : ∀ c ∈ line, isLineEnd c = false) (hc : isLineEnd c = true)
      (hn : c = '\r' → rest.head? ≠ some '\n') (h : CutsInto rest lines) :
      CutsInto (line ++ c :: rest) (line :: lines)
  | closedByTwo {line rest lines} (hl : ∀ c ∈ line, isLineEnd c = false) (h : CutsInto rest lines) :
      CutsInto (line ++ '\r' :: '\n' :: rest) (line :: lines)

variable {line cs : List Char} {ls : List (List Char)} {c : Char}

/-! ## The lines that are cut -/

theorem cutsInto_linesFrom (cs : List Char) (hl : ∀ c ∈ line, isLineEnd c = false) :
    CutsInto (line.reverse ++ cs) (linesFrom line cs) := by
  have hreverse {line : List Char} (hl : ∀ c ∈ line, isLineEnd c = false) :
      ∀ c ∈ line.reverse, isLineEnd c = false := fun c hc => hl c (List.mem_reverse.1 hc)
  fun_induction linesFrom line cs with
  | case1 line hempty =>
    rw [List.isEmpty_iff.1 hempty]
    exact .nil
  | case2 line hempty =>
    rw [List.append_nil]
    refine .last (fun hnil => ?_) (hreverse hl)
    exact hempty (List.isEmpty_iff.2 (List.reverse_eq_nil_iff.1 hnil))
  | case3 line rest ih => exact .closedByTwo (hreverse hl) (ih (List.forall_mem_nil _))
  | case4 line c rest hpair hc ih =>
    refine .closed (hreverse hl) hc (fun hr hn => ?_) (ih (List.forall_mem_nil _))
    obtain ⟨more, hmore⟩ := List.head?_eq_some_iff.1 hn
    exact hpair more hr hmore
  | case5 line c rest hpair hc ih =>
    have hcut := ih (List.forall_mem_cons.2 ⟨Bool.not_eq_true _ ▸ hc, hl⟩)
    rwa [List.reverse_cons, List.append_assoc, List.singleton_append] at hcut

/-- Characters of a line are passed. -/
theorem linesFrom_append (hl : ∀ c ∈ line, isLineEnd c = false) (passed rest : List Char) :
    linesFrom passed (line ++ rest) = linesFrom (line.reverse ++ passed) rest := by
  induction line generalizing passed with
  | nil => rfl
  | cons c more ih =>
    obtain ⟨hc, hmore⟩ := List.forall_mem_cons.1 hl
    have hfirst : linesFrom passed (c :: (more ++ rest)) = linesFrom (c :: passed) (more ++ rest) := by
      rw [linesFrom, if_neg (Bool.eq_false_iff.1 hc)]
      rintro _ rfl -
      exact absurd hc (by decide)
    rw [List.cons_append, hfirst, ih hmore, List.reverse_cons, List.append_assoc,
      List.singleton_append]

/-- A text has no other lines. -/
theorem CutsInto.lines_eq (h : CutsInto cs ls) : lines cs = ls := by
  induction h with
  | nil => rfl
  | @last line hne hl =>
    have hpassed := linesFrom_append hl [] []
    rw [List.append_nil, List.append_nil] at hpassed
    rw [lines, hpassed]
    simp [linesFrom, hne]
  | @closed line c rest lines hl hc hn h ih =>
    rw [Text.lines, linesFrom_append hl, List.append_nil, linesFrom, if_pos hc, List.reverse_reverse]
    · exact congrArg (line :: ·) ih
    · rintro more hr rfl
      exact hn hr rfl
  | @closedByTwo line rest lines hl h ih =>
    rw [Text.lines, linesFrom_append hl, List.append_nil, linesFrom, List.reverse_reverse]
    exact congrArg (line :: ·) ih

theorem cutsInto_iff : CutsInto cs ls ↔ lines cs = ls := by
  constructor
  · exact CutsInto.lines_eq
  · rintro rfl
    exact cutsInto_linesFrom cs (List.forall_mem_nil _)

/-! ## What is known of lines -/

theorem isBlank_of_isLineEnd (h : isLineEnd c = true) : isBlank c = true := by
  simp only [isLineEnd, Bool.or_eq_true, Bool.and_eq_true, decide_eq_true_eq, beq_iff_eq] at h
  simp only [isBlank, Bool.or_eq_true, Bool.and_eq_true, decide_eq_true_eq, beq_iff_eq]
  omega

namespace CutsInto

/-- Lines hold no line end. -/
theorem isLineEnd_of_mem (h : CutsInto cs ls) :
    ∀ line ∈ ls, ∀ c ∈ line, isLineEnd c = false := by
  induction h with
  | nil => exact List.forall_mem_nil _
  | last _ hl => exact List.forall_mem_singleton.2 hl
  | closed hl _ _ _ ih => exact List.forall_mem_cons.2 ⟨hl, ih⟩
  | closedByTwo hl _ ih => exact List.forall_mem_cons.2 ⟨hl, ih⟩

theorem ne_nil (h : CutsInto cs ls) (hcs : cs ≠ []) : ls ≠ [] := by
  cases h with
  | nil => exact absurd rfl hcs
  | last | closed | closedByTwo => exact List.cons_ne_nil _ _

/-- The last character of a text ends its last line, unless it is a line end. -/
theorem getLast?_eq (h : CutsInto cs ls) (hlast : cs.getLast? = some c)
    (hc : isLineEnd c = false) : ∃ line, ls.getLast? = some line ∧ line.getLast? = some c := by
  -- the last line of a text that goes on behind a line end is that of what comes then
  have hrest {front line rest : List Char} {lines : List (List Char)} {d : Char}
      (hcut : CutsInto rest lines) (hd : isLineEnd d = true)
      (hlast : (front ++ d :: rest).getLast? = some c)
      (ih : rest.getLast? = some c → ∃ line, lines.getLast? = some line ∧ line.getLast? = some c) :
      ∃ last, (line :: lines).getLast? = some last ∧ last.getLast? = some c := by
    rw [List.getLast?_append_cons] at hlast
    cases rest with
    | nil =>
      cases hlast
      exact absurd hd (Bool.eq_false_iff.1 hc)
    | cons e more =>
      rw [List.getLast?_cons_cons] at hlast
      obtain ⟨last, hline, hend⟩ := ih hlast
      obtain ⟨first, others, rfl⟩ := List.exists_cons_of_ne_nil (hcut.ne_nil (List.cons_ne_nil e more))
      exact ⟨last, by rw [List.getLast?_cons_cons, hline], hend⟩
  induction h with
  | nil => cases hlast
  | @last line hne hl => exact ⟨line, rfl, hlast⟩
  | closed hl hd hn hcut ih => exact hrest hcut hd hlast ih
  | @closedByTwo line rest lines hl hcut ih =>
    have hpair : line ++ '\r' :: '\n' :: rest = (line ++ ['\r']) ++ '\n' :: rest := by simp
    rw [hpair] at hlast
    exact hrest hcut (by decide) hlast ih

end CutsInto

end Greenlight.Text
