import Greenlight.Proofs.Distinct
import Greenlight.Proofs.Settings.Faults
import Greenlight.Proofs.Settings.Fields
import Greenlight.Proofs.Settings.Spellings

/-! # Lists of names

The items of a value are said by rules, apart from how they are read. Main statements: the names of a value
are its items without blanks around them, each at its first place, and are read again as they are; flags
that are loaded are never found repeated. -/

namespace Greenlight.Settings

open Text

variable {v : Value} {items names : List String}

/-! ## Names in normal form -/

/-- Names without repetition, none of them empty or with a blank at an end. -/
structure IsNormal (names : List String) : Prop where
  nodup : names.Nodup
  ne_empty : ∀ name ∈ names, name ≠ ""
  first : ∀ name ∈ names, ∀ c, name.toList.head? = some c → isBlank c = false
  last : ∀ name ∈ names, ∀ c, name.toList.getLast? = some c → isBlank c = false

theorem IsNormal.strip_eq {name : String} (h : IsNormal names) (hm : name ∈ names) :
    strip name = name :=
  strip_eq_self_iff_ends.2 ⟨h.first name hm, h.last name hm⟩

theorem isNormal_distinctNames (items : List String) : IsNormal (distinctNames items) := by
  have hname : ∀ name ∈ distinctNames items, name ≠ "" ∧ strip name = name := by
    intro name hm
    rw [distinctNames, List.mem_eraseDups, List.mem_filter, List.mem_map] at hm
    obtain ⟨⟨item, -, rfl⟩, hne⟩ := hm
    exact ⟨by simpa using hne, strip_strip item⟩
  constructor
  · exact nodup_eraseDups _
  · exact fun name hm => (hname name hm).1
  · exact fun name hm => (strip_eq_self_iff_ends.1 (hname name hm).2).1
  · exact fun name hm => (strip_eq_self_iff_ends.1 (hname name hm).2).2

theorem distinctNames_of_isNormal (h : IsNormal names) : distinctNames names = names := by
  have hstrip : names.map strip = names := map_eq_self fun _ => h.strip_eq
  have hkept : (names.filter fun name => !name.isEmpty) = names :=
    List.filter_eq_self.2 fun name hm => by simpa using h.ne_empty name hm
  rw [distinctNames, hstrip, hkept, eraseDups_of_nodup h.nodup]

/-! ## Items of a value -/

/-- The items of a value: the texts between the commas of a text, or the items of a list as they are
written. -/
inductive GivesItems (v : Value) : List String → Prop where
  | nothing (hc : v.content = .datum .null) : GivesItems v []
  | text {s : String} {items : List String} (hc : v.content = .datum (.text s)) (hne : items ≠ [])
      (hcomma : ∀ item ∈ items, ',' ∉ item.toList) (hjoin : join "," items = s) : GivesItems v items
  | list {values : List Value} {items : List String} (hv : v.items? = some values)
      (hw : List.Forall₂ (fun value item => value.written = .ok item) values items) :
      GivesItems v items

/-- Names can be read from nothing, from a text, and from a list whose items can be written. -/
def OffersNames (v : Value) : Prop :=
  v.content = .datum .null ∨ (∃ s, v.content = .datum (.text s)) ∨
    ∃ values, v.items? = some values ∧ ∀ value ∈ values, ¬value.IsTooLong

theorem givesItems_pieces {s : String} (hc : v.content = .datum (.text s)) :
    GivesItems v (pieces ',' s) := by
  have hcomma : ∀ piece ∈ pieces ',' s, ',' ∉ piece.toList := fun piece hm hc =>
    (of_mem_pieces hm hc).1 rfl
  exact .text hc (pieces_ne_nil ',' s) hcomma (join_pieces rfl s)

theorem readNames_of_givesItems (h : GivesItems v items) :
    readNames v = .ok (distinctNames items) := by
  unfold readNames
  cases h with
  | nothing hc =>
    rw [hc]
    rfl
  | text hc hne hcomma hjoin =>
    rw [hc, ← hjoin]
    exact congrArg (Except.ok ∘ distinctNames) (pieces_join_of_not_mem rfl hne hcomma)
  | list hv hw =>
    have hwritten := mapM_eq_ok_iff.2 hw
    obtain hc | ⟨a, b, hc⟩ := Value.content_of_items? hv
    · simp only [hc, hv, hwritten, Except.map]
    · simp only [hc, hv, hwritten, Except.map]

theorem exists_givesItems_of_readNames (h : readNames v = .ok names) :
    ∃ items, GivesItems v items ∧ distinctNames items = names := by
  unfold readNames at h
  split at h
  · next hc =>
    cases h
    exact ⟨[], .nothing hc, rfl⟩
  · next s hc =>
    cases h
    exact ⟨pieces ',' s, givesItems_pieces hc, rfl⟩
  · split at h
    · next values hv =>
      obtain ⟨items, hw, hnames⟩ := map_eq_ok_iff.1 h
      exact ⟨items, .list hv (mapM_eq_ok_iff.1 hw), hnames⟩
    · exact absurd h (v.refuse_ne_ok _ _)

theorem readNames_eq_ok_iff :
    readNames v = .ok names ↔ ∃ items, GivesItems v items ∧ distinctNames items = names := by
  constructor
  · exact exists_givesItems_of_readNames
  · rintro ⟨items, hitems, rfl⟩
    exact readNames_of_givesItems hitems

theorem exists_givesItems_iff : (∃ items, GivesItems v items) ↔ OffersNames v := by
  constructor
  · rintro ⟨items, hc | ⟨hc, -, -, -⟩ | ⟨hv, hw⟩⟩
    · exact .inl hc
    · exact .inr (.inl ⟨_, hc⟩)
    · refine .inr (.inr ⟨_, hv, fun value hm => Value.exists_written_iff.1 ?_⟩)
      obtain ⟨item, -, hitem⟩ := exists_of_mem_of_mapM (mapM_eq_ok_iff.2 hw) hm
      exact ⟨item, hitem⟩
  · rintro (hc | ⟨s, hc⟩ | ⟨values, hv, hlong⟩)
    · exact ⟨[], .nothing hc⟩
    · exact ⟨pieces ',' s, givesItems_pieces hc⟩
    · obtain ⟨items, hw⟩ := exists_mapM_eq_ok fun value hm => Value.exists_written_iff.2 (hlong value hm)
      exact ⟨items, .list hv (mapM_eq_ok_iff.1 hw)⟩

theorem isNormal_of_readNames (h : readNames v = .ok names) : IsNormal names := by
  obtain ⟨items, -, rfl⟩ := readNames_eq_ok_iff.1 h
  exact isNormal_distinctNames items

/-! ## Names of settings -/

variable {s : Settings}

/-- The names of settings that are loaded are in normal form. -/
theorem isNormal_of_load {yaml : Yaml.Reader} {t : FileTree} {env : Environment}
    {file root : Option Path} (h : load yaml t env file root = .ok s) :
    IsNormal s.flags ∧ IsNormal s.deniedExamples ∧ IsNormal s.skippedNames := by
  rw [load_eq, bind_eq_ok_iff] at h
  obtain ⟨entries, -, hs⟩ := h
  exact ⟨isNormal_of_readNames (reads_of_ofOrigin hs .flags),
    isNormal_of_readNames (reads_of_ofOrigin hs .deniedExamples),
    isNormal_of_readNames (reads_of_ofOrigin hs .skippedNames)⟩

theorem check_ne_flagsRepeated (h : s.flags.Nodup) : s.check ≠ .error (.settings .flagsRepeated) := by
  have hfails : FailsOnly (· ≠ .settings .flagsRepeated) s.check := by
    refine check_failsOnly_of fun e he hfault => ?_
    cases hfault
    exact he rfl (eraseDups_of_nodup h)
  exact fun hcheck => hfails _ hcheck rfl

/-- Names are read in normal form. -/
structure ReadsNormally : Prop where
  offers_iff : ∀ v, (∃ names, readNames v = .ok names) ↔ OffersNames v
  /-- The names are the items without the blanks around them, each at its first place. -/
  firsts_iff : ∀ v names, readNames v = .ok names ↔ ∃ items, GivesItems v items ∧
    FirstOccurrences names ((items.map strip).filter (!·.isEmpty))
  normal : ∀ v names, readNames v = .ok names → IsNormal names
  /-- A list of names that were read is read as these. -/
  again : ∀ v names w, readNames v = .ok names → w.IsTexts names → readNames w = .ok names
  loaded : ∀ yaml t env file root s, load yaml t env file root = .ok s →
    IsNormal s.flags ∧ IsNormal s.deniedExamples ∧ IsNormal s.skippedNames
  /-- The check has no flags to find repeated. -/
  unrepeated : ∀ yaml t env file root s, load yaml t env file root = .ok s →
    s.check ≠ .error (.settings .flagsRepeated)

theorem readsNormally : ReadsNormally := by
  constructor
  · intro v
    simp only [readNames_eq_ok_iff, ← exists_givesItems_iff]
    constructor
    · rintro ⟨names, items, hitems, -⟩
      exact ⟨items, hitems⟩
    · rintro ⟨items, hitems⟩
      exact ⟨_, items, hitems, rfl⟩
  · intro v names
    simp only [readNames_eq_ok_iff, firstOccurrences_iff, distinctNames]
  · exact fun _ _ => isNormal_of_readNames
  · intro v names w h hw
    rw [readNames_of_isTexts hw, distinctNames_of_isNormal (isNormal_of_readNames h)]
  · exact fun _ _ _ _ _ _ => isNormal_of_load
  · exact fun _ _ _ _ _ _ h => check_ne_flagsRepeated (isNormal_of_load h).1.nodup

/-- A name that comes twice, with other blanks around it. -/
theorem readsNormally_twice :
    let v := Value.text " tls ,traces,,\ttls"
    let names := ["tls", "traces"]
    readNames v = .ok names ∧ IsNormal names ∧ readNames (.list (names.map .text)) = .ok names := by
  intro v names
  have hread : readNames v = .ok names := toOption_eq_some_iff.1 (by decide +kernel)
  exact ⟨hread, readsNormally.normal v names hread,
    readsNormally.again v names _ hread (Value.isTexts_list names)⟩

end Greenlight.Settings
