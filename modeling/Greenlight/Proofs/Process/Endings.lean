import Greenlight.Process.Watch
import Mathlib.Algebra.Order.Ring.Unbundled.Rat
import Mathlib.Data.Nat.Find

/-! # How a watch ends

A watch ends at the first look that gives it an end. Main statement: what that end says about the looks of
the watch, whatever they find. The grace after a stop runs from the first look that hears one, and nothing
that is heard later moves it. Only a process that outlives its removal keeps the watch from returning. -/

namespace Greenlight.Watch

/-! ## Removals -/

/-- A process outlives its removal: it takes both signals, and ends after neither. -/
def Reaction.Outlives (reaction : Reaction) : Prop :=
  ∀ signal, reaction.takes signal = true ∧ reaction.ends signal = false

theorem Reaction.send_eq_outlived_iff {reaction : Reaction} {signal : Signal} {still : Removal} :
    reaction.send signal still = .outlived ↔
      (reaction.takes signal = true ∧ reaction.ends signal = false) ∧ still = .outlived := by
  unfold send
  split
  · next ht => split <;> simp_all
  · next ht => simp [ht]

theorem Reaction.removal_eq_outlived_iff {reaction : Reaction} :
    reaction.removal = .outlived ↔ reaction.Outlives := by
  rw [removal, send_eq_outlived_iff, send_eq_outlived_iff, and_iff_left rfl]
  constructor
  · rintro ⟨hterminate, hkill⟩ (_ | _)
    · exact hterminate
    · exact hkill
  · intro h
    exact ⟨h .terminate, h .kill⟩

theorem Ending.finish_eq_outlived_iff {ending : Ending} {reaction : Reaction} :
    ending.finish reaction = .outlived ↔ ending.isSignalled = true ∧ reaction.Outlives := by
  rw [finish, ← Reaction.removal_eq_outlived_iff]
  simp

theorem Ending.finish_eq_returns_iff {ending other : Ending} {reaction : Reaction} :
    ending.finish reaction = .returns other ↔
      ending = other ∧ ¬(ending.isSignalled = true ∧ reaction.Outlives) := by
  rw [finish, ← Reaction.removal_eq_outlived_iff]
  split <;> simp_all

namespace Terms

/-- A look finds the command running although its time is up. -/
structure FindsLate (terms : Terms) (look : Look) : Prop where
  running : look.exited = none
  timeUp : ∃ limit, terms.timeLimit = some limit ∧ limit ≤ look.time - terms.start

/-- A stop was heard before a look. -/
def HeardBefore (terms : Terms) (looks : Nat → Look) (index : Nat) : Prop :=
  ∃ earlier < index, terms.hears (looks earlier) = true

/-- A look is the first that hears a stop. -/
structure FirstHears (terms : Terms) (looks : Nat → Look) (first : Nat) : Prop where
  hears : terms.hears (looks first) = true
  notBefore : ¬terms.HeardBefore looks first

/-- The rules by which a look ends a watch that came to it. -/
inductive EndsAt (terms : Terms) (looks : Nat → Look) (index : Nat) : Ending → Prop where
  | exited {status interrupted} (he : (looks index).exited = some status)
      (hi : interrupted = true ↔ terms.HeardBefore looks index ∨
        status ≠ 0 ∧ terms.hears (looks index) = true) :
      EndsAt terms looks index (.exited status interrupted)
  | timedOut (hl : terms.FindsLate (looks index)) : EndsAt terms looks index .timedOut
  | stopped {first grace} (he : (looks index).exited = none) (hl : ¬terms.FindsLate (looks index))
      (hh : terms.hears (looks index) = true) (hf : terms.FirstHears looks first)
      (hg : terms.grace = some grace)
      (ho : (looks first).time + max 0 grace ≤ (looks index).time) :
      EndsAt terms looks index .stopped

/-- What a watch that came to a look knows of the stops before it. -/
inductive Remembers (terms : Terms) (looks : Nat → Look) (index : Nat) : Option Rat → Prop where
  | nothing (hn : ¬terms.HeardBefore looks index) : Remembers terms looks index none
  | first {first} (hf : terms.FirstHears looks first) (hlt : first < index) :
      Remembers terms looks index (some (looks first).time)

variable {terms : Terms} {looks : Nat → Look} {reactions : Nat → Reaction} {heard later : Option Rat}
  {look : Look} {ending : Ending} {index first other last count : Nat}

/-! ## Stops that were heard -/

theorem heardBefore_succ :
    terms.HeardBefore looks (index + 1) ↔
      terms.HeardBefore looks index ∨ terms.hears (looks index) = true := by
  constructor
  · rintro ⟨earlier, hlt, hh⟩
    rcases Nat.lt_succ_iff_lt_or_eq.1 hlt with hlt | rfl
    · exact .inl ⟨earlier, hlt, hh⟩
    · exact .inr hh
  · rintro (⟨earlier, hlt, hh⟩ | hh)
    · exact ⟨earlier, by omega, hh⟩
    · exact ⟨index, by omega, hh⟩

theorem FirstHears.le (h : terms.FirstHears looks first) (hh : terms.hears (looks index) = true) :
    first ≤ index :=
  Nat.le_of_not_lt fun hlt => h.notBefore ⟨index, hlt, hh⟩

/-- The grace does not move: no two looks are the first that hears a stop. -/
theorem FirstHears.eq (h : terms.FirstHears looks first) (ho : terms.FirstHears looks other) :
    first = other :=
  Nat.le_antisymm (h.le ho.hears) (ho.le h.hears)

/-- Where a stop is heard there is a first look that hears one. -/
theorem exists_firstHears (h : terms.hears (looks index) = true) :
    ∃ first, terms.FirstHears looks first := by
  classical
  have hex : ∃ index, terms.hears (looks index) = true := ⟨index, h⟩
  refine ⟨Nat.find hex, Nat.find_spec hex, ?_⟩
  rintro ⟨earlier, hlt, hh⟩
  exact Nat.find_min hex hlt hh

/-- Before the first look no stop was heard. -/
theorem Remembers.start : terms.Remembers looks 0 none :=
  .nothing fun ⟨_, hlt, _⟩ => absurd hlt (Nat.not_lt_zero _)

theorem Remembers.isSome_iff (h : terms.Remembers looks index heard) :
    heard.isSome = true ↔ terms.HeardBefore looks index := by
  cases h with
  | nothing hn => simp [hn]
  | first hf hlt => simp [show terms.HeardBefore looks index from ⟨_, hlt, hf.hears⟩]

/-- A look that hears a stop knows the first look that did. -/
theorem Remembers.exists_firstHears (h : terms.Remembers looks index heard)
    (hh : terms.hears (looks index) = true) :
    ∃ first < index + 1, terms.FirstHears looks first ∧
      heard.getD (looks index).time = (looks first).time := by
  cases h with
  | nothing hn => exact ⟨index, by omega, ⟨hh, hn⟩, rfl⟩
  | first hf hlt => exact ⟨_, by omega, hf, rfl⟩

/-! ## One look -/

theorem isTimeUp_iff {now : Rat} :
    terms.isTimeUp now = true ↔ ∃ limit, terms.timeLimit = some limit ∧ limit ≤ now - terms.start := by
  unfold isTimeUp
  cases terms.timeLimit <;> simp

theorem isGraceOver_iff {heard now : Rat} :
    terms.isGraceOver heard now = true ↔
      ∃ grace, terms.grace = some grace ∧ heard + max 0 grace ≤ now := by
  unfold isGraceOver
  cases hg : terms.grace with
  | none => simp
  | some grace =>
      have hmax : (if grace < 0 then 0 else grace) = max 0 grace := by
        split
        · next hneg => exact (max_eq_left hneg.le).symm
        · next hpos => exact (max_eq_right (not_lt.1 hpos)).symm
      simp [hmax]

theorem findsLate_iff (he : look.exited = none) :
    terms.FindsLate look ↔ terms.isTimeUp look.time = true := by
  rw [isTimeUp_iff]
  exact ⟨FindsLate.timeUp, fun h => ⟨he, h⟩⟩

/-- What a look at a command that has ended comes to. -/
theorem step_of_exited {status : Int} (he : look.exited = some status) :
    terms.step heard look =
      .ends (.exited status (heard.isSome || (status != 0 && terms.hears look))) := by
  rw [step, he]

/-- What a look at a running command comes to. -/
theorem step_of_running (he : look.exited = none) :
    terms.step heard look =
      if terms.isTimeUp look.time then .ends .timedOut
      else if terms.hears look then
        if terms.isGraceOver (heard.getD look.time) look.time then .ends .stopped
        else .goesOn (some (heard.getD look.time))
      else .goesOn heard := by
  rw [step, he]

/-- A command that has ended ends the watch with its status. -/
theorem endsAt_iff_of_exited {status : Int} (he : (looks index).exited = some status) :
    terms.EndsAt looks index ending ↔ ∃ interrupted, ending = .exited status interrupted ∧
      (interrupted = true ↔ terms.HeardBefore looks index ∨
        status ≠ 0 ∧ terms.hears (looks index) = true) := by
  constructor
  · intro h
    cases h with
    | exited he' hi =>
        obtain rfl := Option.some.inj (he.symm.trans he')
        exact ⟨_, rfl, hi⟩
    | timedOut hl => simp [hl.running] at he
    | stopped he' => simp [he'] at he
  · rintro ⟨interrupted, rfl, hi⟩
    exact .exited he hi

/-- A running command ends the watch when its time is up, or else when the grace of a stop is over. -/
theorem endsAt_iff_of_running (he : (looks index).exited = none) :
    terms.EndsAt looks index ending ↔
      ending = .timedOut ∧ terms.isTimeUp (looks index).time = true ∨
        ending = .stopped ∧ ¬terms.isTimeUp (looks index).time = true ∧
          terms.hears (looks index) = true ∧ ∃ first, terms.FirstHears looks first ∧
            terms.isGraceOver (looks first).time (looks index).time = true := by
  rw [← findsLate_iff he]
  constructor
  · intro h
    cases h with
    | exited he' => simp [he] at he'
    | timedOut hl => exact .inl ⟨rfl, hl⟩
    | stopped _ hl hh hf hg ho =>
        exact .inr ⟨rfl, hl, hh, _, hf, isGraceOver_iff.2 ⟨_, hg, ho⟩⟩
  · rintro (⟨rfl, hl⟩ | ⟨rfl, hl, hh, first, hf, ho⟩)
    · exact .timedOut hl
    · obtain ⟨grace, hg, ho⟩ := isGraceOver_iff.1 ho
      exact .stopped he hl hh hf hg ho

/-- A look ends the watch by the rules. -/
theorem step_eq_ends_iff (h : terms.Remembers looks index heard) :
    terms.step heard (looks index) = .ends ending ↔ terms.EndsAt looks index ending := by
  cases he : (looks index).exited with
  | some status =>
      rw [step_of_exited he, endsAt_iff_of_exited he]
      have hi : (heard.isSome || (status != 0 && terms.hears (looks index))) = true ↔
          terms.HeardBefore looks index ∨ status ≠ 0 ∧ terms.hears (looks index) = true := by
        simp [h.isSome_iff]
      constructor
      · intro hs
        cases hs
        exact ⟨_, rfl, hi⟩
      · rintro ⟨interrupted, rfl, hi'⟩
        rw [Bool.eq_iff_iff.2 (hi'.trans hi.symm)]
  | none =>
      rw [step_of_running he, endsAt_iff_of_running he]
      by_cases hup : terms.isTimeUp (looks index).time = true
      · simp only [hup, if_true, Step.ends.injEq, and_true, not_true, false_and, and_false, or_false]
        exact eq_comm
      · by_cases hh : terms.hears (looks index) = true
        · -- the watch knows the only look that the grace can begin with
          obtain ⟨first, -, hf, hfirst⟩ := h.exists_firstHears hh
          have hgrace : (∃ other, terms.FirstHears looks other ∧
              terms.isGraceOver (looks other).time (looks index).time = true) ↔
                terms.isGraceOver (looks first).time (looks index).time = true := by
            constructor
            · rintro ⟨other, ho, hover⟩
              exact hf.eq ho ▸ hover
            · intro hover
              exact ⟨first, hf, hover⟩
          rw [hgrace, hfirst]
          by_cases ho : terms.isGraceOver (looks first).time (looks index).time = true
          · simp only [hup, hh, ho, if_true, if_false, Bool.false_eq_true, Step.ends.injEq, and_false,
              and_true, not_false_eq_true, false_or]
            exact eq_comm
          · simp [hup, hh, ho]
        · simp [hup, hh]

/-- A look after which the watch goes on keeps what is known of the stops. -/
theorem Remembers.step (h : terms.Remembers looks index heard)
    (hs : terms.step heard (looks index) = .goesOn later) :
    terms.Remembers looks (index + 1) later := by
  cases he : (looks index).exited with
  | some status =>
      rw [step_of_exited he] at hs
      cases hs
  | none =>
      rw [step_of_running he] at hs
      split at hs
      · cases hs
      · split at hs
        · next hh =>
            obtain ⟨first, hlt, hf, hfirst⟩ := h.exists_firstHears hh
            rw [hfirst] at hs
            split at hs
            · cases hs
            · cases hs
              exact .first hf hlt
        · next hh =>
            cases hs
            cases h with
            | nothing hn => exact .nothing fun hb => (heardBefore_succ.1 hb).elim hn hh
            | first hf hlt => exact .first hf (by omega)

/-! ## All looks -/

/-- From a look on, a watch ends at the first look that gives it an end. -/
theorem follow_eq_some_iff (h : terms.Remembers looks index heard) :
    terms.follow looks heard index count = some (ending, last) ↔
      index ≤ last ∧ last < index + count ∧ terms.EndsAt looks last ending ∧
        ∀ between, index ≤ between → between < last → ∀ other, ¬terms.EndsAt looks between other := by
  induction count generalizing index heard with
  | zero =>
      constructor
      · intro hrun
        cases hrun
      · rintro ⟨hle, hlt, -⟩
        omega
  | succ count ih =>
      rw [follow]
      cases hs : terms.step heard (looks index) with
      | ends found =>
          have hfound : terms.EndsAt looks index found := (step_eq_ends_iff h).1 hs
          constructor
          · intro hrun
            obtain ⟨rfl, rfl⟩ := Prod.mk.inj (Option.some.inj hrun)
            exact ⟨le_rfl, by omega, hfound, fun between hle hlt => by omega⟩
          · rintro ⟨hle, -, hends, hnone⟩
            obtain rfl : index = last :=
              hle.eq_of_not_lt fun hlt => hnone index le_rfl hlt found hfound
            obtain rfl := Step.ends.inj (hs.symm.trans ((step_eq_ends_iff h).2 hends))
            rfl
      | goesOn later =>
          have hgoes : ∀ other, ¬terms.EndsAt looks index other := by
            intro other hother
            rw [(step_eq_ends_iff h).2 hother] at hs
            cases hs
          dsimp only
          rw [ih (h.step hs)]
          constructor
          · rintro ⟨hle, hlt, hends, hnone⟩
            refine ⟨by omega, by omega, hends, fun between hib hbl => ?_⟩
            rcases hib.eq_or_lt with rfl | hib
            · exact hgoes
            · exact hnone between hib hbl
          · rintro ⟨hle, hlt, hends, hnone⟩
            have hne : index ≠ last := by
              rintro rfl
              exact hgoes ending hends
            exact ⟨by omega, by omega, hends, fun between hib => hnone between (by omega)⟩

/-- A watch ends at the first look that gives it an end. -/
theorem run_eq_some_iff :
    terms.run looks count = some (ending, last) ↔
      last < count ∧ terms.EndsAt looks last ending ∧
        ∀ earlier < last, ∀ other, ¬terms.EndsAt looks earlier other := by
  rw [run, follow_eq_some_iff .start]
  simp

/-- The grace of a stop does not hold off the time limit. -/
example :
    let terms : Terms := ⟨0, some 2, some 5, true⟩
    terms.run (fun index => ⟨none, index, true⟩) 10 = some (.timedOut, 2) := by
  decide +kernel

/-- A watch has ended once one of its looks gives it an end. -/
theorem exists_run_of_endsAt (h : ∃ ending, terms.EndsAt looks index ending) (hc : index < count) :
    ∃ ending, ∃ last ≤ index, terms.run looks count = some (ending, last) := by
  classical
  have hex : ∃ index ending, terms.EndsAt looks index ending := ⟨index, h⟩
  have hle : Nat.find hex ≤ index := Nat.find_le h
  obtain ⟨found, hfound⟩ := Nat.find_spec hex
  refine ⟨found, Nat.find hex, hle, run_eq_some_iff.2 ⟨by omega, hfound, ?_⟩⟩
  intro earlier hlt other hother
  exact Nat.find_min hex hlt ⟨other, hother⟩

/-! ## What an end says -/

/-- What the end of a watch at a look, and the result of the command, say about the looks. -/
structure Reports (terms : Terms) (looks : Nat → Look) (last : Nat) (ending : Ending)
    (result : ProcessResult) : Prop where
  notBoth : ¬(result.timedOut = true ∧ result.interrupted = true)
  /-- Until then the command ran, and its time was not up. -/
  before : ∀ earlier < last, (looks earlier).exited = none ∧ ¬terms.FindsLate (looks earlier)
  timedOut_iff : result.timedOut = true ↔ terms.FindsLate (looks last)
  signalled_iff : ending.isSignalled = true ↔ (looks last).exited = none
  /-- A command that has ended keeps its status. -/
  exited : ∀ status, (looks last).exited = some status → result.exitStatus = status ∧
    (result.interrupted = true ↔ terms.HeardBefore looks last ∨
      status ≠ 0 ∧ terms.hears (looks last) = true)
  /-- A running command is stopped when the grace is over that began with the first stop heard. -/
  stopped : (looks last).exited = none → result.interrupted = true →
    terms.hears (looks last) = true ∧ ∃ first ≤ last, terms.FirstHears looks first ∧
      ∃ grace, terms.grace = some grace ∧ (looks first).time + max 0 grace ≤ (looks last).time

/-- A look at a command that has ended ends the watch. -/
theorem exists_endsAt_of_exited {status : Int} (he : (looks index).exited = some status) :
    ∃ ending, terms.EndsAt looks index ending := by
  classical
  exact ⟨_, .exited he (decide_eq_true_iff (p := terms.HeardBefore looks index ∨
    status ≠ 0 ∧ terms.hears (looks index) = true))⟩

theorem exited_eq_none_of_not_endsAt (h : ∀ ending, ¬terms.EndsAt looks index ending) :
    (looks index).exited = none := by
  cases he : (looks index).exited with
  | none => rfl
  | some status =>
      obtain ⟨ending, hends⟩ := exists_endsAt_of_exited he
      exact absurd hends (h ending)

/-- The end of a watch reports its looks. -/
theorem reports_of_run (h : terms.run looks count = some (ending, last)) (stdout stderr : List UInt8) :
    terms.Reports looks last ending (ending.result stdout stderr) := by
  obtain ⟨-, hends, hnone⟩ := run_eq_some_iff.1 h
  have hbefore : ∀ earlier < last,
      (looks earlier).exited = none ∧ ¬terms.FindsLate (looks earlier) := by
    intro earlier hlt
    exact ⟨exited_eq_none_of_not_endsAt (hnone earlier hlt),
      fun hl => hnone earlier hlt _ (.timedOut hl)⟩
  cases hends with
  | exited he hi =>
      constructor
      · simp [Ending.result]
      · exact hbefore
      · simp only [Ending.result, Bool.false_eq_true, false_iff]
        intro hl
        simp [hl.running] at he
      · simp [Ending.isSignalled, he]
      · intro status he'
        obtain rfl := Option.some.inj (he.symm.trans he')
        exact ⟨rfl, hi⟩
      · intro he'
        simp [he] at he'
  | timedOut hl =>
      constructor
      · simp [Ending.result]
      · exact hbefore
      · simpa [Ending.result] using hl
      · simpa [Ending.isSignalled] using hl.running
      · intro status he
        simp [hl.running] at he
      · simp [Ending.result]
  | stopped he hl hh hf hg ho =>
      constructor
      · simp [Ending.result]
      · exact hbefore
      · simpa [Ending.result] using hl
      · simpa [Ending.isSignalled] using he
      · intro status he'
        simp [he] at he'
      · intro _ _
        exact ⟨hh, _, hf.le hh, hf, _, hg, ho⟩

/-! ## How a watch is left -/

/-- A watch is left at a look. It returns, unless the command still runs and outlives its removal. -/
structure LeftAt (terms : Terms) (looks : Nat → Look) (reactions : Nat → Reaction) (count last : Nat) :
    Prop where
  returns : ¬((looks last).exited = none ∧ (reactions last).Outlives) →
    ∃ ending, terms.watch looks reactions count = some (.returns ending, last)
  outlived : (looks last).exited = none → (reactions last).Outlives →
    terms.watch looks reactions count = some (.outlived, last)

theorem watch_eq_some_iff {finish : Finish} :
    terms.watch looks reactions count = some (finish, last) ↔
      ∃ ending, terms.run looks count = some (ending, last) ∧
        ending.finish (reactions last) = finish := by
  rw [watch, Option.map_eq_some_iff]
  constructor
  · rintro ⟨⟨ending, _⟩, hrun, ⟨⟩⟩
    exact ⟨ending, hrun, rfl⟩
  · rintro ⟨ending, hrun, rfl⟩
    exact ⟨(ending, last), hrun, rfl⟩

theorem run_of_watch_returns (h : terms.watch looks reactions count = some (.returns ending, last)) :
    terms.run looks count = some (ending, last) := by
  obtain ⟨found, hrun, hfinish⟩ := watch_eq_some_iff.1 h
  exact (Ending.finish_eq_returns_iff.1 hfinish).1 ▸ hrun

/-- A watch is left where it ends. -/
theorem leftAt_of_run (h : terms.run looks count = some (ending, last)) (reactions : Nat → Reaction) :
    terms.LeftAt looks reactions count last := by
  have hsignalled := (reports_of_run h [] []).signalled_iff
  constructor
  · intro hn
    rw [← hsignalled] at hn
    exact ⟨ending, watch_eq_some_iff.2 ⟨ending, h, Ending.finish_eq_returns_iff.2 ⟨rfl, hn⟩⟩⟩
  · intro he ho
    exact watch_eq_some_iff.2 ⟨ending, h, Ending.finish_eq_outlived_iff.2 ⟨hsignalled.2 he, ho⟩⟩

/-- A watch is left once one of its looks gives it an end. -/
theorem exists_leftAt_of_endsAt (h : ∃ ending, terms.EndsAt looks index ending) (hc : index < count)
    (reactions : Nat → Reaction) : ∃ last ≤ index, terms.LeftAt looks reactions count last := by
  obtain ⟨ending, last, hle, hrun⟩ := exists_run_of_endsAt h hc
  exact ⟨last, hle, leftAt_of_run hrun reactions⟩

/-- The looks of a watch decide how it ends, and the process that is signalled then how it is left. -/
structure EndsByLooks (terms : Terms) : Prop where
  reports : ∀ looks reactions count ending last stdout stderr,
    terms.watch looks reactions count = some (.returns ending, last) →
    terms.Reports looks last ending (ending.result stdout stderr)
  /-- A watch that returns nothing had come to an end that signals the process. -/
  outlived : ∀ looks reactions count last, terms.watch looks reactions count = some (.outlived, last) →
    (reactions last).Outlives ∧ ∃ ending, ending.isSignalled = true ∧
      ∀ stdout stderr, terms.Reports looks last ending (ending.result stdout stderr)
  /-- No watch outlasts a look that finds the command ended, or running though its time is up. -/
  left : ∀ looks reactions count index, index < count →
    (looks index).exited ≠ none ∨ terms.FindsLate (looks index) →
      ∃ last ≤ index, terms.LeftAt looks reactions count last

theorem endsByLooks (terms : Terms) : terms.EndsByLooks := by
  constructor
  · intro looks reactions count ending last stdout stderr h
    exact reports_of_run (run_of_watch_returns h) stdout stderr
  · intro looks reactions count last h
    obtain ⟨ending, hrun, hfinish⟩ := watch_eq_some_iff.1 h
    obtain ⟨hsignalled, houtlives⟩ := Ending.finish_eq_outlived_iff.1 hfinish
    exact ⟨houtlives, ending, hsignalled, reports_of_run hrun⟩
  · rintro looks reactions count index hlt (he | hl)
    · obtain ⟨status, he⟩ := Option.ne_none_iff_exists'.1 he
      exact exists_leftAt_of_endsAt (exists_endsAt_of_exited he) hlt reactions
    · exact exists_leftAt_of_endsAt ⟨_, .timedOut hl⟩ hlt reactions

/-- A process that neither signal ends is left behind where its time is up. -/
example :
    let terms : Terms := ⟨0, some 2, none, false⟩
    terms.watch (fun index => ⟨none, index, false⟩) (fun _ => ⟨fun _ => true, fun _ => false⟩) 10 =
      some (.outlived, 2) := by
  decide +kernel

end Terms

end Greenlight.Watch
