import Greenlight.Proofs.Plan.AlikeDeclarations
import Greenlight.Proofs.Plan.Invocation
import Greenlight.Proofs.Settings.Spellings
import Greenlight.Proofs.Text.LowerCase

/-! # Blanks around an id

Blanks around the id of a declaration are cut off where it names the check, but not where it stands for the
stage. Main statement: with blanks around an id a list gives the same checks and the same tasks if the
declaration names its stage, and is refused otherwise. -/

namespace Greenlight

namespace FixedCheck

open Text

variable {t : Toolchain} {index : Nat} {name front back : String} {check : FixedCheck}
  {checks : List FixedCheck} {value padded : Value} {values others : List Value}
  {entries found : List (Datum × Value)}

/-! ## Blanks around one id -/

/-- The entries of a declaration, and those with blanks around its id. -/
structure PadsId (front name back : String) (entries found : List (Datum × Value)) : Prop where
  front_blank : ∀ c ∈ front.toList, isBlank c = true
  back_blank : ∀ c ∈ back.toList, isBlank c = true
  id : (Value.lookup entries "id").bind Value.text? = some name
  padded : (Value.lookup found "id").bind Value.text? = some (front ++ name ++ back)
  rest : ∀ key, key ≠ "id" →
    Option.Rel Value.Alike (Value.lookup entries key) (Value.lookup found key)

/-- A list of declarations, and the same with blanks around the id of one of them. -/
inductive PadsOne (front name back : String) (entries : List (Datum × Value)) :
    List Value → List Value → Prop where
  | here {value padded : Value} {found : List (Datum × Value)} {rest rest' : List Value}
      (hv : value.content = .map entries) (hp : padded.content = .map found)
      (h : PadsId front name back entries found) (hrest : List.Forall₂ Value.Alike rest rest') :
      PadsOne front name back entries (value :: rest) (padded :: rest')
  | later {first first' : Value} {rest rest' : List Value} (hfirst : first.Alike first')
      (hrest : PadsOne front name back entries rest rest') :
      PadsOne front name back entries (first :: rest) (first' :: rest')

/-- The declaration names a stage, or nothing is put around its id. -/
def KeepsStage (front back : String) (entries : List (Datum × Value)) : Prop :=
  (∃ stage, Value.lookup entries "stage" = some stage) ∨ front = "" ∧ back = ""

/-- A mapping with an id declares what its entries give. -/
theorem declares_iff_givesCheck (hv : value.content = .map entries)
    (hid : (Value.lookup entries "id").bind Value.text? = some name) :
    Declares t value check ↔ strip name ≠ "" ∧ GivesCheck t entries name check := by
  constructor
  · rintro ⟨entries', name', hi, hg⟩
    have hcontent := hi.content
    rw [hv] at hcontent
    cases hcontent
    have hname := hi.id
    rw [hid] at hname
    cases hname
    exact ⟨hi.notBlank, hg⟩
  · rintro ⟨hblank, hg⟩
    exact ⟨entries, name, ⟨hv, hid, hblank⟩, hg⟩

/-- The id of a declaration has no say in how its parts are read, but for its stage. -/
theorem givesCheck_iff_reads (any : String) :
    GivesCheck t entries name check ↔
      check.id = strip name ∧
      readCommand t any (valueUnder entries "command" .null) = .ok check.command ∧
      readSeverity any entries = .ok check.severity ∧
      (valueUnder entries "stage" (.text name)).Spells check.stage.name ∧
      check.stage.isDiscovered = false ∧
      readEnvironment any entries = .ok check.environment ∧
      textUnder entries "description" "" = .ok check.description := by
  rw [readCommand_eq_ok_iff, readSeverity_eq_ok_iff, readEnvironment_eq_ok_iff]
  constructor
  · rintro ⟨hid, hcommand, hseverity, hstage, hdiscovered, henvironment, hdescription⟩
    exact ⟨hid, hcommand, hseverity, hstage, hdiscovered, henvironment, hdescription⟩
  · rintro ⟨hid, hcommand, hseverity, hstage, hdiscovered, henvironment, hdescription⟩
    exact ⟨hid, hcommand, hseverity, hstage, hdiscovered, henvironment, hdescription⟩

/-- A text that holds a blank is no name of a stage. -/
theorem lower_ne_name_of_isBlank {s : String} {c : Char} (hc : isBlank c = true) (hm : c ∈ s.toList)
    (stage : Stage) : lower s ≠ stage.name := by
  intro hlower
  have hname : c ∈ stage.name.toList := by
    rw [← hlower, toList_lower]
    exact mem_lowerChars_of_isBlank hc hm
  have hplain : stage.name.toList.all (!isBlank ·) = true := by
    cases stage <;> decide
  simpa [hc] using List.all_eq_true.1 hplain c hname

namespace PadsId

theorem strip_eq (h : PadsId front name back entries found) :
    strip (front ++ name ++ back) = strip name :=
  strip_padded h.front_blank h.back_blank

theorem exists_blank (h : PadsId front name back entries found) (hadded : ¬(front = "" ∧ back = "")) :
    ∃ c, isBlank c = true ∧ c ∈ (front ++ name ++ back).toList := by
  simp only [String.toList_append, List.mem_append]
  by_cases hfront : front = ""
  · have hback : back.toList ≠ [] := fun hnil => hadded ⟨hfront, String.toList_eq_nil_iff.1 hnil⟩
    obtain ⟨c, hm⟩ := List.exists_mem_of_ne_nil _ hback
    exact ⟨c, h.back_blank c hm, .inr hm⟩
  · obtain ⟨c, hm⟩ := List.exists_mem_of_ne_nil _ (mt String.toList_eq_nil_iff.1 hfront)
    exact ⟨c, h.front_blank c hm, .inl (.inl hm)⟩

/-- Where a stage is kept, it is said alike. -/
theorem stage_alike (h : PadsId front name back entries found) (hk : KeepsStage front back entries) :
    (valueUnder entries "stage" (.text name)).Alike
      (valueUnder found "stage" (.text (front ++ name ++ back))) := by
  have hrel := h.rest "stage" (by decide)
  rcases hk with ⟨stage, hstage⟩ | ⟨rfl, rfl⟩
  · unfold valueUnder
    rw [hstage] at hrel ⊢
    generalize Value.lookup found "stage" = other at hrel ⊢
    cases hrel with
    | some halike => exact halike
  · rw [String.empty_append, String.append_empty]
    exact valueUnder_alike hrel _

/-- Where no stage is kept, the id stands for it. -/
theorem stage_of_not_keepsStage (h : PadsId front name back entries found)
    (hk : ¬KeepsStage front back entries) : Value.lookup found "stage" = none := by
  have hnone : Value.lookup entries "stage" = none :=
    Option.eq_none_iff_forall_ne_some.2 fun stage hstage => hk (.inl ⟨stage, hstage⟩)
  have hrel := h.rest "stage" (by decide)
  rw [hnone] at hrel
  generalize Value.lookup found "stage" = other at hrel ⊢
  cases hrel
  rfl

/-- An id that stands for the stage is the name of none once blanks are added. -/
theorem lower_ne_name (h : PadsId front name back entries found)
    (hk : ¬KeepsStage front back entries) (stage : Stage) :
    lower (front ++ name ++ back) ≠ stage.name := by
  obtain ⟨c, hc, hm⟩ := h.exists_blank fun hadded => hk (.inr hadded)
  exact lower_ne_name_of_isBlank hc hm stage

/-- The parts apart from the id and the stage are read alike. -/
theorem givesCheck_iff (h : PadsId front name back entries found)
    (hk : KeepsStage front back entries) :
    GivesCheck t found (front ++ name ++ back) check ↔ GivesCheck t entries name check := by
  rw [givesCheck_iff_reads "", givesCheck_iff_reads "", h.strip_eq, Value.Spells,
    ← (h.stage_alike hk).written_eq,
    ← readCommand_alike (valueUnder_alike (h.rest "command" (by decide)) .null),
    ← readSeverity_alike (h.rest "class" (by decide)),
    ← readEnvironment_alike (h.rest "env" (by decide)),
    ← textUnder_alike (h.rest "description" (by decide))]
  rfl

/-- With blanks around its id a declaration declares the same check, if its stage is kept. -/
theorem declares_iff (h : PadsId front name back entries found) (hv : value.content = .map entries)
    (hp : padded.content = .map found) :
    Declares t padded check ↔ Declares t value check ∧ KeepsStage front back entries := by
  rw [declares_iff_givesCheck hp h.padded, declares_iff_givesCheck hv h.id, h.strip_eq]
  by_cases hk : KeepsStage front back entries
  · simp only [h.givesCheck_iff hk, hk, and_true]
  · -- the id stands for the stage, and no stage has a blank in its name
    simp only [hk, and_false, iff_false, not_and]
    rintro - hg
    obtain ⟨s, hs, hlower⟩ := hg.stage
    rw [valueUnder, h.stage_of_not_keepsStage hk] at hs
    cases hs
    exact h.lower_ne_name hk _ hlower

/-- A declaration whose stage is not kept is refused for the stage that its id would name. -/
theorem read_eq_error (h : PadsId front name back entries found) (hv : value.content = .map entries)
    (hp : padded.content = .map found) (hk : ¬KeepsStage front back entries)
    (hd : Declares t value check) (index : Nat) :
    read t index padded = .error (.expansion (.stageUnknown (front ++ name ++ back)
      (quoted (front ++ name ++ back)))) := by
  obtain ⟨hblank, hg⟩ := (declares_iff_givesCheck hv h.id).1 hd
  obtain ⟨-, hcommand, hseverity, -⟩ := (givesCheck_iff_reads (front ++ name ++ back)).1 hg
  rw [← h.strip_eq] at hblank
  rw [readCommand_alike (valueUnder_alike (h.rest "command" (by decide)) .null)] at hcommand
  rw [readSeverity_alike (h.rest "class" (by decide))] at hseverity
  have hnone : Stage.ofName? (lower (front ++ name ++ back)) = none := by
    refine Option.eq_none_iff_forall_ne_some.2 fun stage hstage => ?_
    exact h.lower_ne_name hk stage (Stage.ofName?_eq_some_iff.1 hstage).symm
  have hstage : readStage (front ++ name ++ back) found = .error (.expansion
      (.stageUnknown (front ++ name ++ back) (quoted (front ++ name ++ back)))) := by
    unfold readStage textUnder
    rw [h.stage_of_not_keepsStage hk]
    refine bind_eq_error_iff.2 (.inr ⟨front ++ name ++ back, rfl, ?_⟩)
    rw [hnone]
    rfl
  rw [read_of_identifies ⟨hp, h.padded, hblank⟩, hcommand, hseverity, hstage]
  rfl

end PadsId

/-! ## Lists -/

namespace PadsOne

theorem readFrom_eq_ok_iff (h : PadsOne front name back entries values others) :
    readFrom t index others = .ok checks ↔
      readFrom t index values = .ok checks ∧ KeepsStage front back entries := by
  -- what stands before the declaration and behind it is read alike
  induction h generalizing index checks with
  | here hv hp h hrest =>
    simp only [readFrom, bind_eq_ok_iff, read_eq_ok_iff, h.declares_iff hv hp,
      readFrom_alike hrest]
    constructor
    · rintro ⟨check, ⟨hcheck, hk⟩, hchecks⟩
      exact ⟨⟨check, hcheck, hchecks⟩, hk⟩
    · rintro ⟨⟨check, hcheck, hchecks⟩, hk⟩
      exact ⟨check, ⟨hcheck, hk⟩, hchecks⟩
  | later hfirst _ ih =>
    simp only [readFrom, bind_eq_ok_iff, read_alike hfirst, ih]
    constructor
    · rintro ⟨check, hcheck, others, ⟨hothers, hk⟩, hchecks⟩
      exact ⟨⟨check, hcheck, others, hothers, hchecks⟩, hk⟩
    · rintro ⟨⟨check, hcheck, others, hothers, hchecks⟩, hk⟩
      exact ⟨check, hcheck, others, ⟨hothers, hk⟩, hchecks⟩

theorem readFrom_eq_error (h : PadsOne front name back entries values others)
    (hk : ¬KeepsStage front back entries) (hread : readFrom t index values = .ok checks) :
    readFrom t index others = .error (.expansion (.stageUnknown (front ++ name ++ back)
      (quoted (front ++ name ++ back)))) := by
  induction h generalizing index checks with
  | here hv hp h hrest =>
    rw [readFrom] at hread ⊢
    obtain ⟨check, hcheck, -⟩ := bind_eq_ok_iff.1 hread
    exact bind_eq_error_iff.2 (.inl (h.read_eq_error hv hp hk (read_eq_ok_iff.1 hcheck) index))
  | later hfirst _ ih =>
    rw [readFrom] at hread ⊢
    obtain ⟨check, hcheck, hread⟩ := bind_eq_ok_iff.1 hread
    obtain ⟨checks, hchecks, -⟩ := bind_eq_ok_iff.1 hread
    rw [← read_alike hfirst, hcheck]
    exact bind_eq_error_iff.2 (.inr ⟨check, rfl, bind_eq_error_iff.2 (.inl (ih hchecks))⟩)

end PadsOne

/-! ## Mappings of texts -/

/-- A declaration as a mapping of texts. -/
def ofTexts (texts : List (String × String)) : Value :=
  .map (texts.map fun e => (.text e.1, .text e.2))

/-- The value under a key is the text that a mapping of texts has there. -/
theorem lookup_of_texts {texts : List (String × String)}
    (h : List.Forall₂ (fun f e => f.1 = .text e.1 ∧ f.2.text? = some e.2) entries texts) (key : String) :
    Option.Rel (fun v s => v.text? = some s) (Value.lookup entries key) (Entries.get? texts key) := by
  induction h with
  | nil => exact .none
  | @cons f e _ _ hfe _ ih =>
    obtain ⟨d, v⟩ := f
    obtain ⟨k, s⟩ := e
    obtain ⟨rfl, hv⟩ := hfe
    unfold Value.lookup Entries.get? at ih ⊢
    cases hk : k == key with
    | true =>
      simp only [List.find?_cons, hk]
      exact .some hv
    | false =>
      simp only [List.find?_cons, hk]
      exact ih

theorem bind_text?_of_rel {v : Option Value} {s : Option String}
    (h : Option.Rel (fun v s => v.text? = some s) v s) : v.bind Value.text? = s := by
  cases h with
  | none => rfl
  | some hv => exact hv

theorem alike_of_rel {v w : Option Value} {s : Option String}
    (hv : Option.Rel (fun v s => v.text? = some s) v s)
    (hw : Option.Rel (fun v s => v.text? = some s) w s) : Option.Rel Value.Alike v w := by
  cases hv with
  | none =>
    cases hw
    exact .none
  | some hv =>
    cases hw with
    | some hw => exact .some (.of_same_text hv hw)

/-- Blanks around the id of a mapping of texts, whose stage is kept if it names one. -/
theorem exists_padsOne_ofTexts {front back : String} (name : String) (texts : List (String × String))
    (hf : ∀ c ∈ front.toList, isBlank c = true) (hb : ∀ c ∈ back.toList, isBlank c = true) :
    ∃ entries, PadsOne front name back entries [ofTexts (("id", name) :: texts)]
        [ofTexts (("id", front ++ name ++ back) :: texts)] ∧
      ∀ stage, Entries.get? texts "stage" = some stage → KeepsStage front back entries := by
  obtain ⟨entries, hv, he⟩ := Value.isTextMapping_map (("id", name) :: texts)
  obtain ⟨found, hp, ho⟩ := Value.isTextMapping_map (("id", front ++ name ++ back) :: texts)
  have hother (id key : String) (hk : key ≠ "id") :
      Entries.get? (("id", id) :: texts) key = Entries.get? texts key := by
    simp [Entries.get?, Ne.symm hk]
  have hpads : PadsId front name back entries found := by
    constructor
    · exact hf
    · exact hb
    · exact bind_text?_of_rel (lookup_of_texts he "id")
    · exact bind_text?_of_rel (lookup_of_texts ho "id")
    · intro key hk
      have hentry := lookup_of_texts he key
      have hfound := lookup_of_texts ho key
      rw [hother _ key hk] at hentry hfound
      exact alike_of_rel hentry hfound
  refine ⟨entries, .here hv hp hpads .nil, fun stage hstage => ?_⟩
  have hrel := lookup_of_texts he "stage"
  rw [hother _ "stage" (by decide), hstage] at hrel
  generalize hlookup : Value.lookup entries "stage" = found at hrel
  cases hrel
  exact .inl ⟨_, hlookup⟩

/-! ## Checks and tasks -/

/-- What becomes of a list of declarations when blanks are put around one id. -/
structure ReadsPadded (t : Toolchain) (front name back : String) (entries : List (Datum × Value))
    (values others : List Value) : Prop where
  /-- The checks are the same if the stage is kept, and there are none otherwise. -/
  checks_iff : ∀ checks, readAll t others = .ok checks ↔
    readAll t values = .ok checks ∧ KeepsStage front back entries
  /-- So are the tasks. -/
  tasks_iff : ∀ examples features tasks, Plan.queue t examples features (some others) = .ok tasks ↔
    Plan.queue t examples features (some values) = .ok tasks ∧ KeepsStage front back entries
  /-- A list that is read no more is refused for the stage that the id would name. -/
  refused : ¬KeepsStage front back entries → ∀ checks, readAll t values = .ok checks →
    readAll t others = .error (.expansion (.stageUnknown (front ++ name ++ back)
      (quoted (front ++ name ++ back))))

theorem readAll_readsPadded (h : PadsOne front name back entries values others) (t : Toolchain) :
    ReadsPadded t front name back entries values others := by
  constructor
  · exact fun _ => h.readFrom_eq_ok_iff
  · intro examples features tasks
    simp only [Plan.queue, bind_eq_ok_iff, readAll, h.readFrom_eq_ok_iff]
    constructor
    · rintro ⟨checks, ⟨hchecks, hk⟩, htasks⟩
      exact ⟨⟨checks, hchecks, htasks⟩, hk⟩
    · rintro ⟨⟨checks, hchecks, htasks⟩, hk⟩
      exact ⟨checks, ⟨hchecks, hk⟩, htasks⟩
  · exact fun hk _ => h.readFrom_eq_error hk

/-- Blanks around an id that is not the name of the stage as well. -/
theorem readAll_readsPadded_stageGiven :
    let declared (id : String) := ofTexts [("id", id), ("stage", "lint"), ("command", "cargo clippy")]
    (readAll .plain [declared "style"]).toOption = some
        [⟨"style", Arg.ofTexts ["cargo", "clippy"], .blocking, .lint, "", []⟩] ∧
      readAll .plain [declared "\tstyle "] = readAll .plain [declared "style"] := by
  intro declared
  have hfront : "\t".toList.all isBlank = true := by decide
  have hback : " ".toList.all isBlank = true := by decide
  obtain ⟨entries, hpads, hstage⟩ := exists_padsOne_ofTexts "style"
    [("stage", "lint"), ("command", "cargo clippy")] (List.all_eq_true.1 hfront)
    (List.all_eq_true.1 hback)
  have hread : (readAll .plain [declared "style"]).toOption = some
      [⟨"style", Arg.ofTexts ["cargo", "clippy"], .blocking, .lint, "", []⟩] := by
    decide +kernel
  have hok := toOption_eq_some_iff.1 hread
  have hpadded := ((readAll_readsPadded hpads .plain).checks_iff _).2 ⟨hok, hstage "lint" rfl⟩
  exact ⟨hread, hpadded.trans hok.symm⟩

/-- An id that stands for the stage is the name of none with a blank in front. -/
theorem readAll_paddedId_refused :
    let declared (id : String) := ofTexts [("id", id), ("command", "cargo clippy")]
    (∃ entries, PadsOne " " "lint" "" entries [declared "lint"] [declared " lint"]) ∧
      (readAll .plain [declared "lint"]).toOption = some
        [⟨"lint", Arg.ofTexts ["cargo", "clippy"], .blocking, .lint, "", []⟩] ∧
      ∃ fault, readAll .plain [declared " lint"] = .error fault ∧ fault.category = .expansion ∧
        fault.message = "Static task ' lint' has unknown stage ' lint'." := by
  intro declared
  have hfront : " ".toList.all isBlank = true := by decide
  have hback : "".toList.all isBlank = true := by decide
  obtain ⟨entries, hpads, -⟩ := exists_padsOne_ofTexts "lint" [("command", "cargo clippy")]
    (List.all_eq_true.1 hfront) (List.all_eq_true.1 hback)
  refine ⟨⟨entries, hpads⟩, by decide +kernel, ?_⟩
  have hread : ((readAll .plain [declared " lint"]).map fun _ => ()).mapError
      (fun fault => (fault.category, fault.message)) =
        .error (.expansion, "Static task ' lint' has unknown stage ' lint'.") := by
    decide +kernel
  obtain ⟨fault, hfault, he⟩ := exists_error_of_mapError hread
  obtain ⟨hcategory, hmessage⟩ := Prod.mk.inj he
  exact ⟨fault, hfault, hcategory, hmessage⟩

end FixedCheck

end Greenlight
