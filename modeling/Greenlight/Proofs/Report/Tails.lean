import Greenlight.Proofs.Text.Blank
import Greenlight.Proofs.Text.Lines
import Greenlight.Report.Printer

/-! # The ends of printed outputs

Below a failed outcome the last lines of its outputs are printed. Main statement: an output is left out when
it is blank, and otherwise its last lines are printed up to its last character that is not blank. -/

namespace Greenlight.Report

open Text

variable {α : Type} {label : String} {bytes : List UInt8} {text : List Char} {last : Char}

theorem lastItems_suffix (n : Nat) (xs : List α) : lastItems n xs <:+ xs :=
  List.drop_suffix _ xs

theorem length_lastItems (n : Nat) (xs : List α) : (lastItems n xs).length = min n xs.length := by
  rw [lastItems, List.length_drop]
  omega

/-- The line above the end of an output. -/
def tailHeader (label : String) (count : Nat) : String :=
  "      --- " ++ label ++ " (last " ++ toString count ++ " line(s)) ---"

/-- A line of an output as it is printed. -/
def indented (line : List Char) : String := "      " ++ String.ofList line

/-- Printed lines show the end of a text that ends with a character. -/
structure ShowsEnd (label : String) (text : List Char) (last : Char) (shown : List String) : Prop where
  /-- Behind a header that tells their number stand the last lines of the text, at most forty. -/
  lines : ∃ all tail, CutsInto text all ∧ tail <:+ all ∧ tail.length = min 40 all.length ∧
    shown = tailHeader label tail.length :: tail.map indented
  unbroken : ∀ line ∈ shown.tail, ∀ c ∈ line.toList, isLineEnd c = false
  /-- The text ends where they do. -/
  ends : ∃ line, shown.getLast? = some line ∧ line.toList.getLast? = some last

theorem outputTail_of_blank (h : stripEndChars (decodeLossy bytes) = []) :
    outputTail label bytes = [] := by
  simp [outputTail, h]

theorem outputTail_of_not_blank (h : stripEndChars (decodeLossy bytes) = text) (hne : text ≠ [])
    (label : String) : outputTail label bytes = tailHeader label (lastItems 40 (Text.lines text)).length ::
      (lastItems 40 (Text.lines text)).map indented := by
  simp [outputTail, h, hne, tailHeader, indented, tailLines, toString]

theorem toList_indented (line : List Char) :
    (indented line).toList = List.replicate 6 ' ' ++ line := by
  simp [indented, List.replicate]

theorem isLineEnd_of_mem_indented {line : List Char} (h : ∀ c ∈ line, isLineEnd c = false) :
    ∀ c ∈ (indented line).toList, isLineEnd c = false := by
  intro c hc
  rw [toList_indented, List.mem_append] at hc
  rcases hc with hc | hc
  · rw [(List.mem_replicate.1 hc).2]
    decide
  · exact h c hc

/-- The last lines of a text end with the character that it ends with. -/
theorem exists_getLast?_lastItems {n : Nat} (hn : n ≠ 0) (hlast : text.getLast? = some last)
    (hend : isLineEnd last = false) :
    ∃ line, (lastItems n (Text.lines text)).getLast? = some line ∧ line.getLast? = some last := by
  have hcut : CutsInto text (Text.lines text) := cutsInto_iff.2 rfl
  obtain ⟨line, hline, hchar⟩ := hcut.getLast?_eq hlast hend
  refine ⟨line, ?_, hchar⟩
  obtain ⟨front, hfront⟩ := lastItems_suffix n (Text.lines text)
  have hne : lastItems n (Text.lines text) ≠ [] := by
    intro hnil
    have hlength := length_lastItems n (Text.lines text)
    rw [hnil, List.length_nil] at hlength
    have hpos := List.length_pos_of_mem (List.mem_of_getLast? hline)
    omega
  rw [← hfront, List.getLast?_append_of_ne_nil front hne] at hline
  exact hline

theorem outputTail_showsEnd (h : stripEndChars (decodeLossy bytes) = text)
    (hlast : text.getLast? = some last) (hend : isLineEnd last = false) (label : String) :
    ShowsEnd label text last (outputTail label bytes) := by
  have hne : text ≠ [] := by
    rintro rfl
    cases hlast
  have hcut : CutsInto text (Text.lines text) := cutsInto_iff.2 rfl
  have hshown := outputTail_of_not_blank h hne label
  obtain ⟨line, hline, hchar⟩ := exists_getLast?_lastItems (n := 40) (by decide) hlast hend
  constructor
  · exact ⟨_, _, hcut, lastItems_suffix 40 _, length_lastItems 40 _, hshown⟩
  · intro shown hm
    rw [hshown, List.tail_cons] at hm
    obtain ⟨line, hl, rfl⟩ := List.mem_map.1 hm
    apply isLineEnd_of_mem_indented
    exact hcut.isLineEnd_of_mem line ((lastItems_suffix 40 _).subset hl)
  · refine ⟨indented line, ?_, ?_⟩
    · rw [hshown, List.getLast?_cons, List.getLast?_map, hline]
      rfl
    · rw [toList_indented, List.getLast?_append, hchar]
      rfl

/-- What is printed of an output. -/
structure ShowsOutput (label : String) (bytes : List UInt8) : Prop where
  /-- An output is left out exactly if all of it is blank. -/
  blank_iff : outputTail label bytes = [] ↔ ∀ c ∈ decodeLossy bytes, isBlank c = true
  /-- Otherwise its end is shown, up to its last character that is not blank. -/
  shown : ∀ before last blanks, decodeLossy bytes = before ++ last :: blanks → isBlank last = false →
    (∀ b ∈ blanks, isBlank b = true) →
      ShowsEnd label (before ++ [last]) last (outputTail label bytes)

theorem showsOutput (label : String) (bytes : List UInt8) : ShowsOutput label bytes := by
  constructor
  · rw [← stripEndChars_eq_nil_iff]
    constructor
    · intro h
      by_contra hne
      rw [outputTail_of_not_blank rfl hne label] at h
      cases h
    · exact outputTail_of_blank
  · intro before last blanks hbytes hlast hblanks
    have htext : stripEndChars (decodeLossy bytes) = before ++ [last] := by
      rw [hbytes, stripEndChars_append_blanks hlast hblanks]
    have hend : isLineEnd last = false := by
      by_contra h
      rw [Bool.not_eq_false] at h
      rw [isBlank_of_isLineEnd h] at hlast
      cases hlast
    exact outputTail_showsEnd htext (List.getLast?_concat ..) hend label

end Greenlight.Report
