import Greenlight.Fault
import Greenlight.Proofs.Failing

/-! # Values that cannot be written or counted

A value cannot be written for one reason only, and cannot be read as a number for few. -/

namespace Greenlight

/-! ## Writing values -/

theorem Datum.intText_failsOnly (n : Int) : FailsOnly (· = .tooLong) (Datum.intText n) := by
  unfold Datum.intText
  dsimp only
  split
  · exact .error rfl
  · exact .ok _

theorem Datum.shown_failsOnly (d : Datum) : FailsOnly (· = .tooLong) d.shown := by
  cases d with
  | int n => exact intText_failsOnly n
  | _ => exact .ok _

theorem Datum.toText_failsOnly (d : Datum) : FailsOnly (· = .tooLong) d.toText := by
  unfold Datum.toText
  split
  · exact .ok _
  · exact .ok _
  · exact .ok _
  · exact .ok _
  · exact d.shown_failsOnly

namespace Value

theorem shownNode_failsOnly (g : Graph) (depth : Nat) (opened : List Nat) (node : Node) :
    FailsOnly (· = .tooLong) (Graph.shown g depth opened node) := by
  induction depth generalizing opened node with
  | zero =>
    cases node with
    | datum d => exact d.shown_failsOnly
    | collection n => exact .ok _
  | succ depth ih =>
    cases node with
    | datum d => exact d.shown_failsOnly
    | collection n =>
      rw [Graph.shown]
      split
      · exact Datum.shown_failsOnly _
      · split
        · exact .ok _
        · split
          · exact (ih _ _).bind fun _ _ => (ih _ _).bind fun _ _ => .ok _
          · exact (FailsOnly.mapM fun item _ => ih _ item).bind fun _ _ => .ok _
          · split
            · exact .ok _
            · exact (FailsOnly.mapM fun d _ => d.shown_failsOnly).bind fun _ _ => .ok _
          · refine (FailsOnly.mapM ?_).bind fun _ _ => .ok _
            rintro ⟨key, item⟩ -
            exact key.shown_failsOnly.bind fun _ _ => (ih _ _).bind fun _ _ => .ok _

theorem shown_failsOnly (v : Value) : FailsOnly (· = .tooLong) v.shown :=
  shownNode_failsOnly _ _ _ _

theorem toText_failsOnly (v : Value) : FailsOnly (· = .tooLong) v.toText := by
  unfold toText
  split
  · exact Datum.toText_failsOnly _
  · exact v.shown_failsOnly

/-- A value is refused with a fault that shows it, or cannot be shown. -/
theorem refuse_ne_ok {α : Type} (v : Value) (fault : String → Fault) (a : α) :
    v.refuse fault ≠ .ok a := by
  intro h
  obtain ⟨shown, -, ht⟩ := bind_eq_ok_iff.1 h
  cases ht

section Written

variable {v : Value} {fault : Fault}

/-- A value holds a whole number that is too long to be written. -/
def IsTooLong (v : Value) : Prop := v.written = .error (.number .tooLong)

theorem isTooLong_of_written (h : v.written = .error fault) :
    v.IsTooLong ∧ fault = .number .tooLong := by
  have hfails : FailsOnly (· = .number .tooLong) v.written :=
    v.toText_failsOnly.mapError fun _ he => congrArg Fault.number he
  have hfault : fault = .number .tooLong := hfails fault h
  subst hfault
  exact ⟨h, rfl⟩

theorem exists_written_iff : (∃ s, v.written = .ok s) ↔ ¬v.IsTooLong := by
  constructor
  · rintro ⟨s, hs⟩ hl
    rw [IsTooLong, hs] at hl
    cases hl
  · intro hl
    cases hw : v.written with
    | error fault => exact absurd (isTooLong_of_written hw).1 hl
    | ok s => exact ⟨s, rfl⟩

/-- What can be written can be shown. -/
theorem exists_shown_of_written {s : String} (h : v.written = .ok s) : ∃ shown, v.shown = .ok shown := by
  have htext : v.toText = .ok s := mapError_eq_ok_iff.1 h
  obtain ⟨graph, node⟩ := v
  cases node with
  | collection number => exact ⟨s, htext⟩
  | datum d =>
      cases d with
      | int n => exact ⟨s, htext⟩
      | _ => exact ⟨_, rfl⟩

/-- A value that can be shown is refused with the fault that shows it. -/
theorem exists_refuse_of_shown {α : Type} {shown : String} (h : v.shown = .ok shown)
    (refusal : String → Fault) : (v.refuse refusal : Except Fault α) = .error (refusal shown) := by
  rw [refuse, h]
  rfl

end Written

end Value

/-! ## Reading numbers -/

theorem Datum.readFloat_failsOnly (cs : List Char) (shown : String) :
    FailsOnly (· = .notFloat shown) (Datum.readFloat cs shown) := by
  unfold Datum.readFloat
  cases Decimal.readFloat? cs with
  | none => exact .error rfl
  | some x => exact .ok x

/-- A text that stands for no double is refused. -/
theorem Value.toFloat_text_failsOnly (s : String) :
    FailsOnly (· = .notFloat (Text.quoted s)) (Value.text s).toFloat :=
  Datum.readFloat_failsOnly s.toList (Text.quoted s)

end Greenlight
