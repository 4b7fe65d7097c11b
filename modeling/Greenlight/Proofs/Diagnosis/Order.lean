import Greenlight.Proofs.Diagnosis.Streams
import Greenlight.Proofs.Text.Utf8

/-! # More output, earlier diagnosis

The rules of a stage stand in an order, and so do the patterns of a rule. Main statement: output that is added
never moves a diagnosis to a later place, so that the end of an output, as it is kept of a long one, is never
diagnosed at an earlier place than all of it. -/

namespace Greenlight.Diagnosis

open Text

/-! ## Places -/

/-- The place of the rule of a diagnosis among those of a stage. The exit status comes behind them all. -/
def rulePlace (stage : Stage) (d : Diagnosis) : Nat := (rules stage).findIdx (·.code == d.rule)

/-- The place of the pattern of a diagnosis in the row of its rule. -/
def patternPlace (stage : Stage) (d : Diagnosis) : Nat :=
  ((rules stage).find? (·.code == d.rule)).elim 0 fun rule => d.pattern.elim 0 rule.patterns.idxOf

/-- A diagnosis has no later rule than another one, and no later pattern of the same rule. -/
structure IsNoLaterThan (stage : Stage) (d e : Diagnosis) : Prop where
  rulePlace_le : rulePlace stage d ≤ rulePlace stage e
  patternPlace_le : d.rule = e.rule → patternPlace stage d ≤ patternPlace stage e

variable {stage : Stage} {status : Int} {text other : List Char} {d e : Diagnosis}

/-- The rules of a stage have codes of their own. -/
theorem find?_code (stage : Stage) :
    ∀ rule ∈ rules stage, (rules stage).find? (·.code == rule.code) = some rule := by
  cases stage <;> decide

theorem find?_code_ofStatus (stage : Stage) (status : Int) :
    (rules stage).find? (·.code == (ofStatus status).rule) = none := by
  cases stage <;> rfl

theorem findIdx_of_find? {α : Type} [BEq α] [LawfulBEq α] {p : α → Bool} {xs : List α} {x : α}
    (h : xs.find? p = some x) : xs.findIdx p = xs.idxOf x := by
  induction xs with
  | nil => cases h
  | cons y rest ih =>
    by_cases hy : p y = true
    · rw [List.find?_cons_of_pos hy, Option.some.injEq] at h
      rw [List.findIdx_cons, hy, cond_true, h, List.idxOf_cons_self]
    · rw [List.find?_cons_of_neg hy] at h
      have hne : y ≠ x := fun he => hy (he ▸ List.find?_some h)
      rw [List.findIdx_cons, Bool.eq_false_iff.2 hy, cond_false, ih h, List.idxOf_cons_ne _ hne]

/-! ## Where a diagnosis comes from -/

/-- A pattern of the rule occurs in a text. -/
def Rule.fires (rule : Rule) (text : List Char) : Bool := (rule.firing? text).isSome

theorem Rule.fires_iff {rule : Rule} :
    rule.fires text = true ↔ ∃ pattern ∈ rule.patterns, pattern.toList <:+: text := by
  simp [Rule.fires, Rule.firing?, occursIn_iff]

/-- A diagnosis is that of the first rule that fires, with the first pattern that occurs, or that of the
exit status when no rule fires. -/
inductive Explains (stage : Stage) (status : Int) (text : List Char) : Diagnosis → Prop where
  | rule {rule pattern} (hr : (rules stage).find? (·.fires text) = some rule)
      (hp : rule.firing? text = some pattern) :
      Explains stage status text ⟨rule.code, rule.code, some pattern⟩
  | status (h : (rules stage).find? (·.fires text) = none) :
      Explains stage status text (ofStatus status)

theorem ofOutput_explains (stage : Stage) (status : Int) (stdout stderr : List Char) :
    Explains stage status (searched stdout stderr) (ofOutput stage status stdout stderr) := by
  cases hf : (rules stage).find? (·.fires (searched stdout stderr)) with
  | none =>
    have hnone : ofRules (rules stage) (searched stdout stderr) = none := by
      rw [ofRules, List.findSome?_eq_none_iff]
      intro rule hr
      have hsilent := List.find?_eq_none.1 hf rule hr
      rw [Rule.fires, Option.not_isSome_iff_eq_none] at hsilent
      rw [hsilent]
      rfl
    rw [ofOutput, hnone, Option.getD_none]
    exact .status hf
  | some rule =>
    obtain ⟨hfires, before, after, hrow, hbefore⟩ := List.find?_eq_some_iff_append.1 hf
    obtain ⟨pattern, hp⟩ := Option.isSome_iff_exists.1 hfires
    have hsome : ofRules (rules stage) (searched stdout stderr) =
        some ⟨rule.code, rule.code, some pattern⟩ := by
      rw [ofRules, List.findSome?_eq_some_iff]
      refine ⟨before, rule, after, hrow, by rw [hp]; rfl, ?_⟩
      intro earlier he
      have hsilent : earlier.firing? (searched stdout stderr) = none := by
        simpa [Rule.fires] using hbefore earlier he
      rw [hsilent]
      rfl
    rw [ofOutput, hsome, Option.getD_some]
    exact .rule hf hp

namespace Explains

theorem rulePlace_eq (h : Explains stage status text d) :
    rulePlace stage d = (rules stage).findIdx (·.fires text) := by
  cases h with
  | rule hr hp =>
    have hcode := find?_code stage _ (List.mem_of_find?_eq_some hr)
    exact (findIdx_of_find? hcode).trans (findIdx_of_find? hr).symm
  | status hr =>
    have hcode := find?_code_ofStatus stage status
    rw [List.find?_eq_none] at hcode hr
    rw [rulePlace, List.findIdx_eq_length.2 fun rule hm => Bool.eq_false_iff.2 (hcode rule hm),
      List.findIdx_eq_length.2 fun rule hm => Bool.eq_false_iff.2 (hr rule hm)]

theorem patternPlace_eq {rule : Rule} {pattern : String}
    (hr : (rules stage).find? (·.fires text) = some rule) (hp : rule.firing? text = some pattern) :
    patternPlace stage ⟨rule.code, rule.code, some pattern⟩ =
      rule.patterns.findIdx fun pattern => occursIn pattern.toList text := by
  have hcode := find?_code stage rule (List.mem_of_find?_eq_some hr)
  rw [patternPlace, hcode, findIdx_of_find? hp]
  rfl

/-- Where more patterns occur, a diagnosis is found no later. -/
theorem isNoLaterThan (hd : Explains stage status text d) (he : Explains stage status other e)
    (h : ∀ rule ∈ rules stage, ∀ pattern ∈ rule.patterns,
      pattern.toList <:+: other → pattern.toList <:+: text) :
    d.IsNoLaterThan stage e := by
  constructor
  · rw [hd.rulePlace_eq, he.rulePlace_eq]
    apply List.findIdx_le_findIdx
    intro rule hr
    rw [Rule.fires_iff, Rule.fires_iff]
    rintro ⟨pattern, hp, ho⟩
    exact ⟨pattern, hp, h rule hr pattern hp ho⟩
  · intro hsame
    cases hd with
    | @rule rule pattern hr hp =>
      have hm : rule ∈ rules stage := List.mem_of_find?_eq_some hr
      have hcode := find?_code stage rule hm
      cases he with
      | @rule rule' pattern' hr' hp' =>
        have hcode' := find?_code stage rule' (List.mem_of_find?_eq_some hr')
        obtain rfl : rule = rule' := by
          have hcodes : rule.code = rule'.code := hsame
          rw [← hcodes, hcode, Option.some.injEq] at hcode'
          exact hcode'
        rw [patternPlace_eq hr hp, patternPlace_eq hr' hp']
        apply List.findIdx_le_findIdx
        intro pattern hp
        rw [occursIn_iff, occursIn_iff]
        exact h rule hm pattern hp
      | status hr' =>
        have hcodes : rule.code = (ofStatus _).rule := hsame
        rw [hcodes, find?_code_ofStatus] at hcode
        cases hcode
    | status hr =>
      rw [patternPlace, find?_code_ofStatus]
      exact Nat.zero_le _

end Explains

/-! ## Added and cut output -/

variable {stdout stderr stdout' stderr' : List Char}

theorem ofOutput_isNoLaterThan
    (h : ∀ rule ∈ rules stage, ∀ pattern ∈ rule.patterns,
      Occurs pattern stdout ∨ Occurs pattern stderr →
        Occurs pattern stdout' ∨ Occurs pattern stderr') :
    (ofOutput stage status stdout' stderr').IsNoLaterThan stage
      (ofOutput stage status stdout stderr) := by
  apply (ofOutput_explains ..).isNoLaterThan (ofOutput_explains ..)
  intro rule hr pattern hp
  rw [infix_searched_iff hr hp, infix_searched_iff hr hp]
  exact h rule hr pattern hp

theorem lowerForm_replacement : lowerForm '\uFFFD' = ['\uFFFD'] := by
  decide

/-- What occurs behind a cut occurs in the whole: no pattern holds a replacement character. -/
theorem occurs_of_occurs_drop {rule : Rule} {pattern : String} (hr : rule ∈ rules stage)
    (hp : pattern ∈ rule.patterns) {bytes : List UInt8} {n : Nat}
    (h : Occurs pattern (decodeLossy (bytes.drop n))) : Occurs pattern (decodeLossy bytes) := by
  have hplain := isPlainPattern_of_mem hr hp
  have hreplacement : '\uFFFD' ∉ pattern.toList := fun hm =>
    absurd (hplain _ hm).2 (by decide)
  obtain ⟨k, kept, hdrop, front, hwhole⟩ := exists_decodeLossy_drop bytes n
  have hforms : (List.replicate k '\uFFFD').flatMap lowerForm = List.replicate k '\uFFFD' := by
    rw [List.flatMap_replicate, lowerForm_replacement, List.flatten_replicate_singleton]
  rw [Occurs, hplain.infix_lowerChars_iff, hdrop, List.flatMap_append, hforms,
    infix_replicate_append_iff hreplacement] at h
  rw [Occurs, hplain.infix_lowerChars_iff, ← hwhole, List.flatMap_append]
  exact h.trans (List.suffix_append _ _).isInfix

/-- Output before or behind the one there is never leads to a later diagnosis. The end of an output, read
from any byte on, never leads to an earlier one than the whole. -/
theorem ofOutput_sharpens (stage : Stage) (status : Int) :
    (∀ before stdout after front stderr back : List Char,
      (ofOutput stage status (before ++ stdout ++ after) (front ++ stderr ++ back)).IsNoLaterThan stage
        (ofOutput stage status stdout stderr)) ∧
    ∀ (stdout stderr : List UInt8) (m n : Nat),
      (ofOutput stage status (decodeLossy stdout) (decodeLossy stderr)).IsNoLaterThan stage
        (ofOutput stage status (decodeLossy (stdout.drop m)) (decodeLossy (stderr.drop n))) := by
  constructor
  · intro before stdout after front stderr back
    apply ofOutput_isNoLaterThan
    intro rule hr pattern hp
    have hplain := isPlainPattern_of_mem hr hp
    rintro (hout | herr)
    · exact .inl (hplain.infix_lowerChars_append before after hout)
    · exact .inr (hplain.infix_lowerChars_append front back herr)
  · intro stdout stderr m n
    apply ofOutput_isNoLaterThan
    intro rule hr pattern hp
    rintro (hout | herr)
    · exact .inl (occurs_of_occurs_drop hr hp hout)
    · exact .inr (occurs_of_occurs_drop hr hp herr)

end Greenlight.Diagnosis
