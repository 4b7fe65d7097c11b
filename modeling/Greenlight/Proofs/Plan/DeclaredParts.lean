import Greenlight.Proofs.Plan.FixedChecks
import Greenlight.Proofs.Value.Numbers

/-! # Parts of a declaration

What the parts of a declared check have to say, apart from how they are read. Main statements: each part
is read as what it says, and a part that is not read is refused by the plan, cannot be cut into words, or
holds a whole number that is too long to be written. -/

namespace Greenlight

/-- The text of a value is a name, in lower or upper case. -/
def Value.Spells (v : Value) (name : String) : Prop := ∃ s, v.written = .ok s ∧ Text.lower s = name

namespace FixedCheck

/-! ## What the parts say -/

/-- The value under a key, or what stands for it if the key is absent. -/
def valueUnder (entries : List (Datum × Value)) (key : String) (absent : Value) : Value :=
  (Value.lookup entries key).getD absent

/-- The words of a command: those of a text, or a list of texts. -/
inductive GivesWords (given : Value) : List String → Prop where
  | text {s words} (hs : given.text? = some s) (hw : Text.ShellWords.split s = .ok words) :
      GivesWords given words
  | list {items words} (hn : given.text? = none) (hi : given.items? = some items)
      (hw : items.mapM Value.text? = some words) : GivesWords given words

/-- The texts of an entry of an environment. -/
def WritesEntry (member : Datum × Value) (entry : String × String) : Prop :=
  (Value.ofDatum member.1).written = .ok entry.1 ∧ member.2.written = .ok entry.2

/-- The entries of an environment, of which a later one of a name counts; an empty value gives none. -/
inductive GivesEnvironment (given : Value) : List (String × String) → Prop where
  | map {members written} (hc : given.content = .map members)
      (hw : List.Forall₂ WritesEntry members written) :
      GivesEnvironment given (Entries.merge [] written)
  | empty (hc : ∀ members, given.content ≠ .map members) (hh : given.holds = false) :
      GivesEnvironment given []

/-! ## Parts that fit -/

/-- The command is a text or a list of texts, and has a word. -/
def CommandFits (entries : List (Datum × Value)) : Prop :=
  ∃ words, GivesWords (valueUnder entries "command" .null) words ∧ words ≠ []

/-- The class is known, or absent. -/
def SeverityFits (entries : List (Datum × Value)) : Prop :=
  ∃ severity : Severity,
    (valueUnder entries "class" (.text Severity.blocking.name)).Spells severity.name

/-- The stage, or else the id, is one whose tasks are not found in the crate. -/
def StageFits (entries : List (Datum × Value)) (name : String) : Prop :=
  ∃ stage : Stage, (valueUnder entries "stage" (.text name)).Spells stage.name ∧
    stage.isDiscovered = false

/-- The environment is a mapping, or empty. -/
def EnvironmentFits (entries : List (Datum × Value)) : Prop :=
  (∃ members, (valueUnder entries "env" .null).content = .map members) ∨
    (valueUnder entries "env" .null).holds = false

/-- The names and values of an environment can be written. -/
def EnvironmentIsWritable (entries : List (Datum × Value)) : Prop :=
  ∀ members, (valueUnder entries "env" .null).content = .map members →
    ∀ member ∈ members, ¬(Value.ofDatum member.1).IsTooLong ∧ ¬member.2.IsTooLong

variable {t : Toolchain} {given : Value} {entries : List (Datum × Value)} {name : String}
  {fault : Fault}

/-! ## Commands -/

theorem givesWords_iff_split {s : String} {words : List String} (hs : given.text? = some s) :
    GivesWords given words ↔ Text.ShellWords.split s = .ok words := by
  constructor
  · intro h
    cases h with
    | text hs' hw =>
        rw [hs, Option.some.injEq] at hs'
        exact hs' ▸ hw
    | list hn _ _ =>
        rw [hs] at hn
        cases hn
  · exact .text hs

theorem givesWords_iff_mapM {words : List String} (hn : given.text? = none) :
    GivesWords given words ↔
      (given.items?.bind fun items => items.mapM Value.text?) = some words := by
  rw [Option.bind_eq_some_iff]
  constructor
  · intro h
    cases h with
    | text hs _ =>
        rw [hn] at hs
        cases hs
    | list _ hi hw => exact ⟨_, hi, hw⟩
  · rintro ⟨items, hi, hw⟩
    exact .list hn hi hw

theorem readCommand_eq_ok_iff {command : List Arg} :
    readCommand t name given = .ok command ↔
      ∃ words, GivesWords given words ∧ words ≠ [] ∧ command = expandCommand t words := by
  unfold readCommand
  extract_lets expanded
  have hexpanded (words : List String) :
      expanded words = .ok command ↔ words ≠ [] ∧ command = expandCommand t words := by
    cases words with
    | nil => simp [expanded]
    | cons first rest =>
        simp only [expanded, List.isEmpty_cons, Bool.false_eq_true, if_false, pure, Except.pure,
          Except.ok.injEq, ne_eq, reduceCtorEq, not_false_eq_true, true_and]
        exact eq_comm
  cases hs : given.text? with
  | some s => simp only [bind_eq_ok_iff, mapError_eq_ok_iff, hexpanded, givesWords_iff_split hs]
  | none =>
      simp only [givesWords_iff_mapM hs]
      cases given.items?.bind fun items => items.mapM Value.text? with
      | none => simp [bind_eq_ok_iff]
      | some words => simp [bind_eq_ok_iff, hexpanded, pure, Except.pure]

/-- A command that is not read is refused by the plan, or cannot be cut into words. -/
theorem readCommand_eq_error (h : readCommand t name given = .error fault) :
    fault.category = .expansion ∨ ∃ s defect, given.text? = some s ∧
      Text.ShellWords.split s = .error defect ∧ fault = .words defect := by
  unfold readCommand at h
  extract_lets expanded at h
  have hexpanded (words : List String) (he : expanded words = .error fault) :
      fault.category = .expansion := by
    simp only [expanded] at he
    split at he
    · cases he
      rfl
    · cases he
  split at h
  · next s hs =>
      rcases bind_eq_error_iff.1 h with h | ⟨words, -, h⟩
      · obtain ⟨defect, hw, rfl⟩ := mapError_eq_error_iff.1 h
        exact .inr ⟨s, defect, hs, hw, rfl⟩
      · exact .inl (hexpanded words h)
  · split at h
    · next words _ => exact .inl (hexpanded words h)
    · cases h
      exact .inl rfl

theorem readCommand_of_defect {s : String} {defect : Text.ShellWords.Defect}
    (hs : given.text? = some s) (hw : Text.ShellWords.split s = .error defect) (t : Toolchain)
    (name : String) : readCommand t name given = .error (.words defect) := by
  unfold readCommand
  simp only [hs, hw]
  rfl

/-! ## Classes and stages -/

theorem readSeverity_eq_ok_iff {severity : Severity} :
    readSeverity name entries = .ok severity ↔
      (valueUnder entries "class" (.text Severity.blocking.name)).Spells severity.name := by
  unfold readSeverity
  rw [bind_eq_ok_iff]
  refine exists_congr fun s => and_congr_right fun _ => ?_
  have hname := @Severity.ofName?_eq_some_iff (Text.lower s) severity
  split
  · next found hfound =>
      rw [hfound, Option.some.injEq] at hname
      simpa [pure, Except.pure, eq_comm] using hname
  · next hnone =>
      rw [hnone] at hname
      constructor
      · intro h
        exact absurd h (Value.refuse_ne_ok _ _ _)
      · intro h
        cases hname.2 h.symm

theorem readSeverity_eq_error (h : readSeverity name entries = .error fault) :
    fault.category = .expansion ∨
      (valueUnder entries "class" (.text Severity.blocking.name)).IsTooLong ∧
        fault = .number .tooLong := by
  unfold readSeverity at h
  rcases bind_eq_error_iff.1 h with h | ⟨s, hs, h⟩
  · exact .inr (Value.isTooLong_of_written h)
  · left
    split at h
    · cases h
    · -- the class was written, so it can be shown; if it is absent, nothing is shown
      have hshown : ∃ shown, ((Value.lookup entries "class").getD .null).shown = .ok shown := by
        cases hl : Value.lookup entries "class" with
        | none => exact ⟨_, rfl⟩
        | some v =>
            rw [textUnder, hl] at hs
            exact Value.exists_shown_of_written hs
      obtain ⟨shown, hshown⟩ := hshown
      rw [Value.exists_refuse_of_shown hshown] at h
      cases h
      rfl

theorem readSeverity_of_isTooLong
    (h : (valueUnder entries "class" (.text Severity.blocking.name)).IsTooLong) (name : String) :
    readSeverity name entries = .error (.number .tooLong) := by
  unfold readSeverity
  exact bind_eq_error_iff.2 (.inl h)

theorem readStage_eq_ok_iff {stage : Stage} :
    readStage name entries = .ok stage ↔
      (valueUnder entries "stage" (.text name)).Spells stage.name ∧ stage.isDiscovered = false := by
  constructor
  · intro h
    refine ⟨?_, isDiscovered_of_readStage h⟩
    unfold readStage at h
    obtain ⟨s, hs, h⟩ := bind_eq_ok_iff.1 h
    refine ⟨s, hs, ?_⟩
    split at h
    · next found hfound =>
        split at h
        · cases h
        · cases h
          exact (Stage.ofName?_eq_some_iff.1 hfound).symm
    · exact absurd h (Value.refuse_ne_ok _ _ _)
  · rintro ⟨⟨s, hs, hname⟩, hdiscovered⟩
    unfold readStage
    refine bind_eq_ok_iff.2 ⟨s, hs, ?_⟩
    rw [Stage.ofName?_eq_some_iff.2 hname.symm]
    simp [hdiscovered, pure, Except.pure]

theorem readStage_eq_error (h : readStage name entries = .error fault) :
    fault.category = .expansion ∨
      (valueUnder entries "stage" (.text name)).IsTooLong ∧ fault = .number .tooLong := by
  unfold readStage at h
  rcases bind_eq_error_iff.1 h with h | ⟨s, hs, h⟩
  · exact .inr (Value.isTooLong_of_written h)
  · left
    split at h
    · split at h
      · cases h
        rfl
      · cases h
    · obtain ⟨shown, hshown⟩ := Value.exists_shown_of_written hs
      rw [Value.exists_refuse_of_shown hshown] at h
      cases h
      rfl

theorem readStage_of_isTooLong (h : (valueUnder entries "stage" (.text name)).IsTooLong) :
    readStage name entries = .error (.number .tooLong) := by
  unfold readStage
  exact bind_eq_error_iff.2 (.inl h)

/-! ## Environments -/

section Environments

variable {members : List (Datum × Value)} {found start : List (String × String)}

/-- Puts the texts of an entry over those found before. -/
def putEntry (found : List (String × String)) (member : Datum × Value) :
    Except Fault (List (String × String)) := do
  return Entries.put (← (Value.ofDatum member.1).written) (← member.2.written) found

theorem foldlM_putEntry_eq_ok_iff :
    members.foldlM putEntry start = .ok found ↔
      ∃ written, List.Forall₂ WritesEntry members written ∧ found = Entries.merge start written := by
  induction members generalizing start with
  | nil => simp [pure, Except.pure, Entries.merge, eq_comm]
  | cons member rest ih =>
      rw [List.foldlM_cons, bind_eq_ok_iff]
      simp only [ih, putEntry, bind_eq_ok_iff, pure, Except.pure, Except.ok.injEq,
        List.forall₂_cons_left_iff]
      constructor
      · rintro ⟨_, ⟨key, hkey, item, hitem, rfl⟩, written, hw, rfl⟩
        exact ⟨(key, item) :: written, ⟨_, _, ⟨hkey, hitem⟩, hw, rfl⟩, rfl⟩
      · rintro ⟨_, ⟨⟨key, item⟩, written, ⟨hkey, hitem⟩, hw, rfl⟩, rfl⟩
        exact ⟨_, ⟨key, hkey, item, hitem, rfl⟩, written, hw, rfl⟩

theorem foldlM_putEntry_eq_error (h : members.foldlM putEntry start = .error fault) :
    fault = .number .tooLong ∧
      ¬∀ member ∈ members, ¬(Value.ofDatum member.1).IsTooLong ∧ ¬member.2.IsTooLong := by
  induction members generalizing start with
  | nil => cases h
  | cons member rest ih =>
      rw [List.foldlM_cons] at h
      rcases bind_eq_error_iff.1 h with h | ⟨next, -, h⟩
      · unfold putEntry at h
        rcases bind_eq_error_iff.1 h with h | ⟨key, -, h⟩
        · obtain ⟨hl, hfault⟩ := Value.isTooLong_of_written h
          exact ⟨hfault, fun hall => (hall member List.mem_cons_self).1 hl⟩
        · rcases bind_eq_error_iff.1 h with h | ⟨item, -, h⟩
          · obtain ⟨hl, hfault⟩ := Value.isTooLong_of_written h
            exact ⟨hfault, fun hall => (hall member List.mem_cons_self).2 hl⟩
          · cases h
      · obtain ⟨hfault, hnot⟩ := ih h
        exact ⟨hfault, fun hall => hnot (List.forall_mem_cons.1 hall).2⟩

/-- Entries are written when each of them can be. -/
theorem exists_writesEntry_iff :
    (∃ written, List.Forall₂ WritesEntry members written) ↔
      ∀ member ∈ members, ¬(Value.ofDatum member.1).IsTooLong ∧ ¬member.2.IsTooLong := by
  induction members with
  | nil => simp
  | cons member rest ih =>
      rw [List.forall_mem_cons, ← ih]
      simp only [List.forall₂_cons_left_iff, ← Value.exists_written_iff]
      constructor
      · rintro ⟨_, ⟨key, item⟩, written, ⟨hkey, hitem⟩, hw, rfl⟩
        exact ⟨⟨⟨key, hkey⟩, item, hitem⟩, written, hw⟩
      · rintro ⟨⟨⟨key, hkey⟩, item, hitem⟩, written, hw⟩
        exact ⟨_, (key, item), written, ⟨hkey, hitem⟩, hw, rfl⟩

theorem readEnvironment_of_map {name : String}
    (h : (valueUnder entries "env" .null).content = .map members) :
    readEnvironment name entries = members.foldlM putEntry [] := by
  unfold readEnvironment
  dsimp only
  unfold valueUnder at h
  rw [h]
  rfl

theorem readEnvironment_of_not_map {name : String}
    (h : ∀ members, (valueUnder entries "env" .null).content ≠ .map members) :
    readEnvironment name entries =
      if (valueUnder entries "env" .null).holds then .error (.expansion (.environmentNoMapping name))
      else .ok [] := by
  unfold readEnvironment
  dsimp only
  split
  · next members hm => exact absurd hm (h members)
  · rfl

theorem readEnvironment_eq_ok_iff :
    readEnvironment name entries = .ok found ↔
      GivesEnvironment (valueUnder entries "env" .null) found := by
  by_cases hmap : ∃ members, (valueUnder entries "env" .null).content = .map members
  · obtain ⟨members, hm⟩ := hmap
    rw [readEnvironment_of_map hm, foldlM_putEntry_eq_ok_iff]
    constructor
    · rintro ⟨written, hw, rfl⟩
      exact .map hm hw
    · intro h
      cases h with
      | map hc hw =>
          rw [hm] at hc
          injection hc with hc
          exact ⟨_, hc ▸ hw, rfl⟩
      | empty hc _ => exact absurd hm (hc members)
  · rw [not_exists] at hmap
    rw [readEnvironment_of_not_map hmap]
    constructor
    · intro h
      split at h
      · cases h
      · next hh =>
          cases h
          exact .empty hmap (Bool.not_eq_true _ ▸ hh)
    · intro h
      cases h with
      | map hc _ => exact absurd hc (hmap _)
      | empty _ hh => simp [hh]

theorem readEnvironment_eq_error (h : readEnvironment name entries = .error fault) :
    fault.category = .expansion ∨
      EnvironmentFits entries ∧ ¬EnvironmentIsWritable entries ∧ fault = .number .tooLong := by
  by_cases hmap : ∃ members, (valueUnder entries "env" .null).content = .map members
  · obtain ⟨members, hm⟩ := hmap
    rw [readEnvironment_of_map hm] at h
    obtain ⟨hfault, hnot⟩ := foldlM_putEntry_eq_error h
    exact .inr ⟨.inl ⟨members, hm⟩, fun hall => hnot (hall members hm), hfault⟩
  · rw [not_exists] at hmap
    rw [readEnvironment_of_not_map hmap] at h
    split at h
    · cases h
      exact .inl rfl
    · cases h

theorem exists_givesEnvironment_iff :
    (∃ found, GivesEnvironment (valueUnder entries "env" .null) found) ↔
      EnvironmentFits entries ∧ EnvironmentIsWritable entries := by
  constructor
  · rintro ⟨found, hfound⟩
    cases hfound with
    | map hc hw =>
        refine ⟨.inl ⟨_, hc⟩, ?_⟩
        intro members hm
        rw [hc] at hm
        injection hm with hm
        exact exists_writesEntry_iff.1 ⟨_, hm ▸ hw⟩
    | empty hc hh => exact ⟨.inr hh, fun members hm => absurd hm (hc members)⟩
  · rintro ⟨hfits, hwritable⟩
    by_cases hmap : ∃ members, (valueUnder entries "env" .null).content = .map members
    · obtain ⟨members, hm⟩ := hmap
      obtain ⟨written, hw⟩ := exists_writesEntry_iff.2 (hwritable members hm)
      exact ⟨_, .map hm hw⟩
    · exact ⟨[], .empty (not_exists.1 hmap) (hfits.resolve_left hmap)⟩

/-- An environment that cannot be written is a mapping that holds a number that is too long. -/
theorem readEnvironment_of_not_writable (h : ¬EnvironmentIsWritable entries) (name : String) :
    readEnvironment name entries = .error (.number .tooLong) := by
  cases he : readEnvironment name entries with
  | ok found =>
      have hfound := readEnvironment_eq_ok_iff.1 he
      exact absurd (exists_givesEnvironment_iff.1 ⟨found, hfound⟩).2 h
  | error fault =>
      by_cases hmap : ∃ members, (valueUnder entries "env" .null).content = .map members
      · obtain ⟨members, hm⟩ := hmap
        rw [readEnvironment_of_map hm] at he
        rw [(foldlM_putEntry_eq_error he).1]
      · exact absurd (fun members hm => absurd ⟨members, hm⟩ hmap) h

end Environments

end FixedCheck

end Greenlight
