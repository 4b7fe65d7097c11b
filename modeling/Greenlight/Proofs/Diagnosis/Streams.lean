import Greenlight.Diagnosis
import Greenlight.Proofs.Text.LowerCase
import Mathlib.Data.List.Find

/-! # The two outputs of a command

Rules look at the error output and the standard output in one text. Main statement: a pattern is found in it
when it is found in one of the two, so that a diagnosis depends on nothing else of them, and not on which is
which. -/

namespace Greenlight.Diagnosis

open Text

variable {stage : Stage} {status : Int} {stdout stderr : List Char}

/-- A pattern occurs in a text when the text is written in lower case. -/
def Occurs (pattern : String) (text : List Char) : Prop := pattern.toList <:+: lowerChars text

/-! ## Patterns -/

/-- Patterns hold neither line ends nor letters whose lower case depends on their neighbours. -/
theorem isPlainPattern_of_mem {rule : Rule} {pattern : String} (hr : rule ∈ rules stage)
    (hp : pattern ∈ rule.patterns) : IsPlainPattern pattern.toList := by
  have hplain : ∀ rule ∈ rules stage, ∀ pattern ∈ rule.patterns, IsPlainPattern pattern.toList := by
    cases stage <;> decide +kernel
  exact hplain rule hr pattern hp

theorem infix_searched_iff {rule : Rule} {pattern : String} (hr : rule ∈ rules stage)
    (hp : pattern ∈ rule.patterns) :
    pattern.toList <:+: searched stdout stderr ↔ Occurs pattern stdout ∨ Occurs pattern stderr := by
  rw [searched, (isPlainPattern_of_mem hr hp).infix_lowerChars_lineFeed_iff, or_comm]
  rfl

/-! ## Texts with the same patterns -/

theorem firing?_congr {rule : Rule} {text other : List Char}
    (h : ∀ pattern ∈ rule.patterns, pattern.toList <:+: text ↔ pattern.toList <:+: other) :
    rule.firing? text = rule.firing? other := by
  unfold Rule.firing?
  apply List.find?_congr
  intro pattern hp
  rw [Bool.eq_iff_iff, occursIn_iff, occursIn_iff]
  exact h pattern hp

theorem ofRules_congr {row : List Rule} {text other : List Char}
    (h : ∀ rule ∈ row, ∀ pattern ∈ rule.patterns,
      pattern.toList <:+: text ↔ pattern.toList <:+: other) :
    ofRules row text = ofRules row other := by
  unfold ofRules
  induction row with
  | nil => rfl
  | cons rule rest ih =>
    rw [List.forall_mem_cons] at h
    rw [List.findSome?_cons, List.findSome?_cons, firing?_congr h.1, ih h.2]

/-- A diagnosis reads the two outputs each on its own, and both alike. -/
structure ReadsApart (stage : Stage) (status : Int) (stdout stderr : List Char) : Prop where
  /-- Nothing is found across the place where the outputs meet. -/
  infix_searched_iff : ∀ rule ∈ rules stage, ∀ pattern ∈ rule.patterns,
    pattern.toList <:+: searched stdout stderr ↔ Occurs pattern stdout ∨ Occurs pattern stderr
  /-- Outputs in which the same patterns occur have the same diagnosis. -/
  eq_of_occurs : ∀ stdout' stderr' : List Char,
    (∀ rule ∈ rules stage, ∀ pattern ∈ rule.patterns,
      (Occurs pattern stdout' ∨ Occurs pattern stderr') ↔
        (Occurs pattern stdout ∨ Occurs pattern stderr)) →
    ofOutput stage status stdout' stderr' = ofOutput stage status stdout stderr
  exchange : ofOutput stage status stderr stdout = ofOutput stage status stdout stderr

theorem ofOutput_readsApart (stage : Stage) (status : Int) (stdout stderr : List Char) :
    ReadsApart stage status stdout stderr := by
  have hsame : ∀ stdout' stderr' : List Char,
      (∀ rule ∈ rules stage, ∀ pattern ∈ rule.patterns,
        (Occurs pattern stdout' ∨ Occurs pattern stderr') ↔
          (Occurs pattern stdout ∨ Occurs pattern stderr)) →
      ofOutput stage status stdout' stderr' = ofOutput stage status stdout stderr := by
    intro stdout' stderr' h
    have hrules : ofRules (rules stage) (searched stdout' stderr') =
        ofRules (rules stage) (searched stdout stderr) := by
      apply ofRules_congr
      intro rule hr pattern hp
      rw [Diagnosis.infix_searched_iff hr hp, Diagnosis.infix_searched_iff hr hp]
      exact h rule hr pattern hp
    rw [ofOutput, ofOutput, hrules]
  constructor
  · intro rule hr pattern hp
    exact Diagnosis.infix_searched_iff hr hp
  · exact hsame
  · apply hsame
    intro rule hr pattern hp
    exact or_comm

end Greenlight.Diagnosis
