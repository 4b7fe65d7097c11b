import Greenlight.Process.Watch

/-! # Questions of a watch

A watch asks now and then whether a stop is requested. Main statement: it reports an interruption only if
one of these questions was answered with yes. -/

namespace Greenlight

/-- An interruption is reported only if a question whether a stop is requested was answered with yes. -/
def Answer.IsWarranted (answer : Answer) (answers : List Bool) : Prop :=
  ∀ result, answer = .finished result → result.interrupted = true → true ∈ answers

namespace Watch

/-- The end is reported as an interruption. -/
def Ending.isInterruption : Ending → Bool
  | .exited _ interrupted => interrupted
  | .timedOut => false
  | .stopped => true

theorem Ending.interrupted_result (ending : Ending) (stdout stderr : List UInt8) :
    (ending.result stdout stderr).interrupted = ending.isInterruption := by
  cases ending <;> rfl

/-- A stop has been heard, or is what ends the watch. -/
def Step.hasHeard : Step → Bool
  | .ends ending => ending.isInterruption
  | .goesOn heard => heard.isSome

namespace Terms

/-- A look asks whether a stop is requested: at a command that has ended, only to find out why it failed;
at one that runs, unless its time is up. -/
def asks (terms : Terms) (heard : Option Rat) (look : Look) : Bool :=
  terms.watchesStop &&
    match look.exited with
    | some status => heard.isNone && status != 0
    | none => !terms.isTimeUp look.time

/-- The answers that one look gets: at most one. -/
def answersAt (terms : Terms) (heard : Option Rat) (look : Look) : List Bool :=
  if terms.asks heard look then [look.stop] else []

/-- The answers that a number of looks get, from one of them on. -/
def answersFrom (terms : Terms) (looks : Nat → Look) (heard : Option Rat) (index : Nat) :
    Nat → List Bool
  | 0 => []
  | count + 1 =>
    terms.answersAt heard (looks index) ++
      match terms.step heard (looks index) with
      | .ends _ => []
      | .goesOn heard => answersFrom terms looks heard (index + 1) count

/-- The answers that the first looks get. -/
def answers (terms : Terms) (looks : Nat → Look) (count : Nat) : List Bool :=
  terms.answersFrom looks none 0 count

variable {terms : Terms} {looks : Nat → Look} {heard : Option Rat} {look : Look}

/-! ## One look -/

theorem hasHeard_step (h : (terms.step heard look).hasHeard = true) :
    heard.isSome = true ∨ true ∈ terms.answersAt heard look := by
  cases heard with
  | some first => exact .inl rfl
  | none =>
    right
    unfold step at h
    cases he : look.exited with
    | some status =>
      simp only [he, Step.hasHeard, Ending.isInterruption, Option.isSome_none, Bool.false_or,
        Bool.and_eq_true, hears] at h
      obtain ⟨hz, hw, hs⟩ := h
      simp [answersAt, asks, he, hz, hw, hs]
    | none =>
      simp only [he] at h
      split at h
      · cases h
      · next hup =>
          split at h
          · next hh =>
              obtain ⟨hw, hs⟩ := Bool.and_eq_true_iff.1 hh
              simp [answersAt, asks, he, hw, hs, hup]
          · cases h

/-! ## All looks -/

theorem isInterruption_of_follow {ending : Ending} {index count last : Nat}
    (h : terms.follow looks heard index count = some (ending, last))
    (hi : ending.isInterruption = true) :
    heard.isSome = true ∨ true ∈ terms.answersFrom looks heard index count := by
  induction count generalizing heard index with
  | zero => cases h
  | succ count ih =>
    have hstep : (terms.step heard (looks index)).hasHeard = true →
        heard.isSome = true ∨ true ∈ terms.answersAt heard (looks index) := hasHeard_step
    unfold follow at h
    rw [answersFrom, List.mem_append]
    cases hs : terms.step heard (looks index) with
    | ends found =>
      rw [hs] at h hstep
      obtain ⟨rfl, -⟩ := Prod.mk.inj (Option.some.inj h)
      exact (hstep hi).imp_right .inl
    | goesOn later =>
      rw [hs] at h hstep
      rcases ih h with hlater | hm
      · exact (hstep hlater).imp_right .inl
      · exact .inr (.inr hm)

/-- An interruption that a watch reports is warranted by the answers to its questions. -/
theorem isWarranted_of_run {ending : Ending} {count last : Nat}
    (h : terms.run looks count = some (ending, last)) (stdout stderr : List UInt8) :
    (Answer.finished (ending.result stdout stderr)).IsWarranted (terms.answers looks count) := by
  intro result hr hi
  cases hr
  rw [Ending.interrupted_result] at hi
  exact (isInterruption_of_follow h hi).resolve_left Bool.false_ne_true

end Terms

end Watch

end Greenlight
