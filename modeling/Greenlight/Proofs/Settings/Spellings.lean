import Greenlight.Proofs.Settings.AlikeOptions
import Greenlight.Proofs.Text.Blank
import Greenlight.Proofs.Text.Pieces
import Greenlight.Proofs.Value.Numbers

/-! # Two spellings of an option

A variable holds one text where a file holds a list or a mapping. Main statement: the parts of a list with
separators between them are read like the list, and so are the entries of a mapping. -/

namespace Greenlight

open Text

/-! ## Lists and mappings of texts -/

namespace Value

/-- A value is a list of texts. -/
def IsTexts (v : Value) (xs : List String) : Prop :=
  ∃ items, v.items? = some items ∧ List.Forall₂ (fun item x => item.text? = some x) items xs

/-- A value is a mapping of texts to texts. -/
def IsTextMapping (v : Value) (entries : List (String × String)) : Prop :=
  ∃ found, v.content = .map found ∧
    List.Forall₂ (fun f e => f.1 = .text e.1 ∧ f.2.text? = some e.2) found entries

theorem absorb_ofDatum (g : Graph) (ds : List Datum) :
    Graph.absorb g (ds.map ofDatum) = (g, ds.map .datum) := by
  induction ds generalizing g with
  | nil => rfl
  | cons d ds ih => simp [Graph.absorb, ofDatum, Node.raised, ih]

theorem isTexts_list (xs : List String) : (list (xs.map text)).IsTexts xs := by
  have hnodes : Graph.absorb #[] (xs.map text) = (#[], xs.map (.datum ∘ .text)) := by
    have hdata := absorb_ofDatum #[] (xs.map .text)
    rwa [List.map_map, List.map_map] at hdata
  have hlist : list (xs.map text) = ⟨#[.list (xs.map (.datum ∘ .text))], .collection 0⟩ := by
    rw [list, hnodes]
    rfl
  rw [hlist]
  refine ⟨_, rfl, ?_⟩
  rw [List.map_map, List.forall₂_map_left_iff]
  exact List.forall₂_same.2 fun _ _ => rfl

theorem isTextMapping_map (entries : List (String × String)) :
    (map (entries.map fun e => (.text e.1, text e.2))).IsTextMapping entries := by
  have hnodes : Graph.absorb #[] ((entries.map fun e => (Datum.text e.1, text e.2)).map (·.2)) =
      (#[], entries.map fun e => .datum (.text e.2)) := by
    simpa [Function.comp_def, text] using absorb_ofDatum #[] (entries.map fun e => .text e.2)
  have hmap : map (entries.map fun e => (.text e.1, text e.2)) =
      ⟨#[.map (entries.map fun e => (.text e.1, .datum (.text e.2)))], .collection 0⟩ := by
    rw [map, hnodes, List.map_map]
    simp only [List.zip_map']
    rfl
  rw [hmap]
  refine ⟨_, rfl, ?_⟩
  rw [List.map_map, List.forall₂_map_left_iff]
  exact List.forall₂_same.2 fun _ _ => ⟨rfl, rfl⟩

/-- What is read as a list is a list or a pair. -/
theorem content_of_items? {v : Value} {items : List Value} (h : v.items? = some items) :
    v.content = .list items ∨ ∃ a b, v.content = .pair a b := by
  unfold items? at h
  split at h
  · next hc =>
    cases h
    exact .inl hc
  · next a b hc => exact .inr ⟨a, b, hc⟩
  · cases h

theorem mapM_written_of_texts {items : List Value} {xs : List String}
    (h : List.Forall₂ (fun item x => item.text? = some x) items xs) :
    items.mapM written = .ok xs :=
  mapM_eq_ok_iff.2 (h.imp fun _ _ hx => (Alike.of_text? hx).written_eq)

end Value

namespace Settings

variable {v : Value} {xs : List String}

/-! ## Lists -/

theorem readNames_of_isTexts (h : v.IsTexts xs) : readNames v = .ok (distinctNames xs) := by
  obtain ⟨items, hitems, htexts⟩ := h
  have hwritten := Value.mapM_written_of_texts htexts
  unfold readNames
  obtain hc | ⟨a, b, hc⟩ := Value.content_of_items? hitems
  · simp only [hc, hitems, hwritten, Except.map]
  · simp only [hc, hitems, hwritten, Except.map]

theorem mapM_readFlagSet_of_texts {items : List Value}
    (h : List.Forall₂ (fun item x => item.text? = some x) items xs) :
    items.mapM readFlagSet = .ok (xs.map flagSetOfText) := by
  rw [mapM_eq_ok_iff, List.forall₂_map_right_iff]
  exact h.imp fun _ _ hx => readFlagSet_alike (Value.Alike.of_text? hx)

theorem readFlagSets_of_isTexts (h : v.IsTexts xs) :
    readFlagSets v = .ok (some (xs.map flagSetOfText)) := by
  obtain ⟨items, hitems, htexts⟩ := h
  have hsets := mapM_readFlagSet_of_texts htexts
  unfold readFlagSets
  obtain hc | ⟨a, b, hc⟩ := Value.content_of_items? hitems
  · simp only [hc, hitems, hsets, Except.map]
  · simp only [hc, hitems, hsets, Except.map]

theorem readGroups_of_isTexts (h : v.IsTexts xs) :
    readGroups v = .ok ((xs.map flagSetOfText).filter (!·.isEmpty)) := by
  obtain ⟨items, hitems, htexts⟩ := h
  have htext : v.text? = none := by
    refine Option.eq_none_iff_forall_ne_some.2 fun s hs => ?_
    have hrel := (Value.Alike.of_text? hs).items?
    rw [hitems] at hrel
    cases hrel
  simp only [readGroups, htext, hitems, mapM_readFlagSet_of_texts htexts, Except.map]

/-- A blank text is a set without flags. -/
theorem isEmpty_flagSetOfText {s : String} (h : strip s = "") :
    (flagSetOfText s).isEmpty = true := by
  simp only [flagSetOfText, h]
  decide

theorem readGroups_text (s : String) :
    readGroups (.text s) = .ok (((pieces ';' s).map flagSetOfText).filter (!·.isEmpty)) := by
  change Except.ok ((((pieces ';' s).filter fun part => !(strip part).isEmpty).map
    flagSetOfText).filter (!·.isEmpty)) = _
  rw [List.filter_map, List.filter_map, List.filter_filter]
  refine congrArg (fun parts => Except.ok (List.map flagSetOfText parts)) (List.filter_congr ?_)
  intro part _
  by_cases hblank : strip part = ""
  · simp [isEmpty_flagSetOfText hblank]
  · simp [hblank]

/-- A list is read like its parts with separators between them. -/
theorem readNames_join (h : v.IsTexts xs) (hxs : ∀ x ∈ xs, ',' ∉ x.toList) :
    readNames (.text (join "," xs)) = readNames v := by
  rw [readNames_of_isTexts h]
  change Except.ok (distinctNames (pieces ',' (join "," xs))) = _
  cases xs with
  | nil => rfl
  | cons x rest => rw [pieces_join_of_not_mem rfl (List.cons_ne_nil x rest) hxs]

theorem readGroups_join (h : v.IsTexts xs) (hxs : ∀ x ∈ xs, ';' ∉ x.toList) :
    readGroups (.text (join ";" xs)) = readGroups v := by
  rw [readGroups_of_isTexts h, readGroups_text]
  cases xs with
  | nil => rfl
  | cons x rest => rw [pieces_join_of_not_mem rfl (List.cons_ne_nil x rest) hxs]

theorem readFlagSets_join (h : v.IsTexts xs) (hne : xs ≠ []) (hxs : ∀ x ∈ xs, ';' ∉ x.toList) :
    readFlagSets (.text (join ";" xs)) = readFlagSets v := by
  rw [readFlagSets_of_isTexts h]
  change Except.ok (some ((pieces ';' (join ";" xs)).map flagSetOfText)) = _
  rw [pieces_join_of_not_mem rfl hne hxs]

/-! ## Mappings -/

/-- A name and the text of a number that can be spelled as one entry of a text. -/
structure IsPlainLimit (limit : String × String) : Prop where
  strip_name : strip limit.1 = limit.1
  strip_seconds : strip limit.2 = limit.2
  comma_name : ',' ∉ limit.1.toList
  equals_name : '=' ∉ limit.1.toList
  comma_seconds : ',' ∉ limit.2.toList

/-- A limit as an entry of a text. -/
def limitText (limit : String × String) : String := limit.1 ++ "=" ++ limit.2

theorem not_isEmpty_limitText (limit : String × String) : (!(limitText limit).isEmpty) = true := by
  simp [limitText]

namespace IsPlainLimit

variable {limit : String × String}

theorem comma_limitText (h : IsPlainLimit limit) : ',' ∉ (limitText limit).toList := by
  simp [limitText, h.comma_name, h.comma_seconds]

theorem strip_limitText (h : IsPlainLimit limit) : strip (limitText limit) = limitText limit :=
  strip_append_append h.strip_name h.strip_seconds rfl (by decide)

theorem cutAtFirst_limitText (h : IsPlainLimit limit) :
    cutAtFirst '=' (limitText limit).toList = some (limit.1.toList, limit.2.toList) := by
  have hlist : (limitText limit).toList = limit.1.toList ++ '=' :: limit.2.toList := by
    simp [limitText]
  rw [hlist, cutAtFirst_append_cons h.equals_name]

end IsPlainLimit

/-- A limit as it is read from either spelling. -/
def limitEntry (limit : String × String) : String × Value := (limit.1, .text limit.2)

theorem limitEntries_join {limits : List (String × String)}
    (h : ∀ limit ∈ limits, IsPlainLimit limit) :
    limitEntries (join "," (limits.map limitText)) = .ok (limits.map limitEntry) := by
  have htokens : ((pieces ',' (join "," (limits.map limitText))).map strip).filter (!·.isEmpty) =
      limits.map limitText := by
    cases limits with
    | nil => rfl
    | cons first rest =>
      have hpieces : pieces ',' (join "," ((first :: rest).map limitText)) =
          (first :: rest).map limitText :=
        pieces_join_of_not_mem rfl (List.cons_ne_nil _ _)
          (List.forall_mem_map.2 fun limit hm => (h limit hm).comma_limitText)
      have hstrip : ((first :: rest).map limitText).map strip = (first :: rest).map limitText := by
        rw [List.map_map]
        exact List.map_congr_left fun limit hm => (h limit hm).strip_limitText
      rw [hpieces, hstrip, List.filter_eq_self]
      exact List.forall_mem_map.2 fun limit _ => not_isEmpty_limitText limit
  rw [limitEntries, htokens, mapM_eq_ok_iff, List.forall₂_map_left_iff, List.forall₂_map_right_iff,
    List.forall₂_same]
  intro limit hm
  have hl := h limit hm
  simp only [hl.cutAtFirst_limitText, String.ofList_toList, hl.strip_name, hl.strip_seconds]
  rfl

theorem readLimits_text_join {limits : List (String × String)}
    (h : ∀ limit ∈ limits, IsPlainLimit limit) :
    readLimits (.text (join "," (limits.map limitText))) = putLimits (limits.map limitEntry) := by
  change limitEntries (join "," (limits.map limitText)) >>= putLimits = _
  rw [limitEntries_join h]
  rfl

theorem readLimits_of_isTextMapping {limits : List (String × String)}
    (hv : v.IsTextMapping limits) : readLimits v = putLimits (limits.map limitEntry) := by
  obtain ⟨entries, hcontent, hentries⟩ := hv
  have hlimits : limits.mapM (fun limit => Except.ok (limitEntry limit)) =
      (.ok (limits.map limitEntry) : Except Fault _) := by
    rw [mapM_eq_ok_iff, List.forall₂_map_right_iff, List.forall₂_same]
    exact fun _ _ => rfl
  rw [readLimits, hcontent]
  refine Eq.trans (Agrees.bind_eq (.mapM ?_ hentries) fun _ _ => putLimits_alike)
    (congrArg (· >>= putLimits) hlimits)
  rintro ⟨_, raw⟩ limit ⟨rfl, hraw⟩
  exact .ok ⟨rfl, .of_text? hraw⟩

/-- A text that is no number of seconds is refused as it stands. -/
theorem readLimit_text_failsOnly (stage seconds : String) :
    FailsOnly (· = .settings (.stageLimit stage (quoted seconds)))
      (readLimit stage (.text seconds)) := by
  have hfloat := Value.toFloat_text_failsOnly seconds
  unfold readLimit
  cases hx : (Value.text seconds).toFloat with
  | ok x => exact .ok x
  | error e =>
    obtain rfl := hfloat e hx
    exact .error rfl

theorem putLimits_failsOnly (limits : List (String × String)) :
    FailsOnly (fun fault => ∃ limit ∈ limits,
        fault = .settings (.stageLimit limit.1 (quoted limit.2)))
      (putLimits (limits.map limitEntry)) := by
  refine FailsOnly.foldlM (fun found entry hm => ?_) []
  obtain ⟨limit, hl, rfl⟩ := List.mem_map.1 hm
  refine FailsOnly.bind ?_ fun _ _ => .ok _
  exact (readLimit_text_failsOnly limit.1 limit.2).mono fun _ he => ⟨limit, hl, he⟩

/-! ## Both spellings -/

/-- A variable spells an option as a file does. -/
structure SpelledAlike : Prop where
  /-- Names with commas between them. -/
  names : ∀ {v : Value} {xs : List String}, v.IsTexts xs → (∀ x ∈ xs, ',' ∉ x.toList) →
    readNames (.text (join "," xs)) = readNames v
  /-- Groups with semicolons between them. -/
  groups : ∀ {v : Value} {xs : List String}, v.IsTexts xs → (∀ x ∈ xs, ';' ∉ x.toList) →
    readGroups (.text (join ";" xs)) = readGroups v
  /-- Sets of flags with semicolons between them. No set at all has no spelling as a text. -/
  featureSets : ∀ {v : Value} {xs : List String}, v.IsTexts xs → xs ≠ [] →
    (∀ x ∈ xs, ';' ∉ x.toList) → readFlagSets (.text (join ";" xs)) = readFlagSets v
  /-- Limits with equals signs and commas: the same limits, or the same refusal of one of them. -/
  limits : ∀ {v : Value} {limits : List (String × String)}, v.IsTextMapping limits →
    (∀ limit ∈ limits, IsPlainLimit limit) →
    readLimits (.text (join "," (limits.map limitText))) = readLimits v ∧
      FailsOnly (fun fault => ∃ limit ∈ limits,
        fault = .settings (.stageLimit limit.1 (quoted limit.2))) (readLimits v)

theorem spelledAlike : SpelledAlike := by
  constructor
  · exact readNames_join
  · exact readGroups_join
  · exact readFlagSets_join
  · intro v limits hv h
    rw [readLimits_text_join h, readLimits_of_isTextMapping hv]
    exact ⟨rfl, putLimits_failsOnly limits⟩

/-- Names that differ in case only are one stage in either spelling. -/
theorem spelledAlike_lowerCase :
    let limits := [("Docs", "30"), ("docs", "60")]
    let v := Value.map (limits.map fun limit => (.text limit.1, .text limit.2))
    readLimits (.text "Docs=30,docs=60") = readLimits v ∧
      (readLimits v).toOption.map (·.map Prod.fst) = some ["docs"] := by
  intro limits v
  have hplain : ∀ limit ∈ limits, IsPlainLimit limit := by
    simp only [limits, List.forall_mem_cons, List.not_mem_nil, false_implies, implies_true, and_true]
    exact ⟨⟨by decide, by decide, by decide, by decide, by decide⟩,
      ⟨by decide, by decide, by decide, by decide, by decide⟩⟩
  have h := (spelledAlike.limits (Value.isTextMapping_map limits) hplain).1
  exact ⟨h, by decide +kernel⟩

end Settings

end Greenlight
