import Greenlight.Proofs.Discovery.Selection
import Greenlight.Proofs.Settings.Faults
import Greenlight.Proofs.Settings.Fields
import Greenlight.Yaml

/-! # The environment before the file

A field whose variable is set is not read from the configuration file. Main statement: files that differ in
such fields only lead to the same settings or the same fault, even if one of them holds what cannot be
read, and a variable has a say in its own field alone. -/

namespace Greenlight.Settings

variable {env : Environment} {given : Option Path} {entries others : List (Datum × Value)}

/-! ## Masked fields -/

/-- The root that is given or a variable settles a field. The variable of the flags to leave out does not:
it adds to the flags that the file leaves out. -/
def Field.IsMasked (env : Environment) (given : Option Path) (f : Field) : Prop :=
  (f = .root ∧ given ≠ none) ∨
    (f ≠ .inclusion ∧ ∃ x, f.envName? = some x ∧ env.valueOf? x ≠ none)

/-- The entries of two files say the same about all fields that are not masked. -/
def SameUnmasked (env : Environment) (given : Option Path) (entries others : List (Datum × Value)) :
    Prop :=
  ∀ f : Field, f.IsMasked env given ∨
    Option.Rel Value.Alike (Value.lookup entries f.key) (Value.lookup others f.key)

theorem Field.not_isMasked_inclusion : ¬Field.inclusion.IsMasked env given := by
  rintro (⟨hroot, -⟩ | ⟨hne, -⟩)
  · cases hroot
  · exact hne rfl

theorem Field.not_isMasked_checks : ¬Field.checks.IsMasked env given := by
  rintro (⟨hroot, -⟩ | ⟨-, x, hx, -⟩)
  · cases hroot
  · cases hx

/-- Fields that are not settled by a root are read from values that are alike. -/
theorem value_alike {f : Field} (h : SameUnmasked env given entries others)
    (hr : f = .root → given = none) (default : Value) :
    (f.value ⟨env, entries⟩ default).Alike (f.value ⟨env, others⟩ default) := by
  by_cases hset : ∃ x, f.envName? = some x ∧ env.valueOf? x ≠ none
  · obtain ⟨x, hx, hne⟩ := hset
    obtain ⟨s, hs⟩ := Option.ne_none_iff_exists'.1 hne
    rw [Field.value_of_set hx hs, Field.value_of_set hx hs]
    exact .refl _
  · have hunset (x : String) (hx : f.envName? = some x) : env.valueOf? x = none :=
      not_not.1 fun hne => hset ⟨x, hx, hne⟩
    have hmasked : ¬f.IsMasked env given := by
      rintro (⟨hroot, hne⟩ | ⟨-, hx⟩)
      · exact hne (hr hroot)
      · exact hset hx
    rw [Field.value_of_unset hunset, Field.value_of_unset hunset]
    exact getD_alike ((h f).resolve_left hmasked) default

/-- What is masked in the file has no say in the settings, nor in the fault that there are none. -/
theorem ofOrigin_agrees (h : SameUnmasked env given entries others) :
    Agrees Alike (ofOrigin ⟨env, entries⟩ given) (ofOrigin ⟨env, others⟩ given) := by
  have hvalue (f : Field) (hr : f ≠ .root) (default : Value) :
      (f.value ⟨env, entries⟩ default).Alike (f.value ⟨env, others⟩ default) :=
    value_alike h (fun he => absurd he hr) default
  have hinclusion := (h .inclusion).resolve_left Field.not_isMasked_inclusion
  have hchecks := (h .checks).resolve_left Field.not_isMasked_checks
  unfold ofOrigin
  extract_lets package rest package' rest'
  have hrest (root : Path) : Agrees Alike (rest root) (rest' root) := by
    refine (readChecks_agrees hchecks).bind fun _ _ hchecks => ?_
    refine .bind_of_eq (readNames_alike (hvalue .flags nofun _)) fun _ => ?_
    refine .bind_of_eq (readFlagSets_alike (hvalue .featureSets nofun _)) fun _ => ?_
    refine .bind_left fun excluded => ?_
    refine .bind_of_eq (readInclusion_alike hinclusion excluded) fun _ => ?_
    refine .bind_of_eq (readGroups_alike (hvalue .exclusiveGroups nofun _)) fun _ => ?_
    refine .bind_of_eq (readNames_alike (hvalue .deniedExamples nofun _)) fun _ => ?_
    refine .bind_of_eq (readSeconds_alike (hvalue .taskLimit nofun _)) fun _ => ?_
    refine .bind_of_eq (readLimits_alike (hvalue .stageLimits nofun _)) fun _ => ?_
    refine .bind_of_eq (readSeconds_alike (hvalue .grace nofun _)) fun _ => ?_
    refine .bind_of_eq (readCount_alike (hvalue .previewBytes nofun _)) fun _ => ?_
    refine .bind_of_eq (readPath_alike (hvalue .logFolder nofun _)) fun _ => ?_
    refine .bind_of_eq (readBool_alike _ (hvalue .strictAdvisory nofun _)) fun _ => ?_
    refine .bind_of_eq (readBool_alike _ (hvalue .advisoryFatal nofun _)) fun _ => ?_
    refine .bind_of_eq (readNames_alike (hvalue .skippedNames nofun _)) fun _ => ?_
    refine .bind_of_eq (readCommand_alike (hvalue .toolchain nofun _)) fun _ => ?_
    refine .ok fun f => ?_
    cases f with
    | package => exact readPackage_alike (hvalue .package nofun _)
    | checks => exact hchecks
    | _ => rfl
  split
  · exact hrest _
  · refine .bind_of_eq (readPath_alike ?_) hrest
    exact value_alike (f := .root) h (fun _ => rfl) (.text ".")

/-! ## Configuration files -/

/-- The keys that a configuration file may not have. -/
def unknownKeys (entries : List (Datum × Value)) : List Datum :=
  (entries.filter (!isFileKey ·.1)).map Prod.fst

/-- The entries of a mapping; nothing is an empty one. -/
def entries? (v : Value) : Option (List (Datum × Value)) :=
  match v.content with
  | .datum .null => some []
  | .map entries => some entries
  | _ => none

/-- A file holds a document that stands for a value. -/
def Holds (yaml : Yaml.Reader) (t : FileTree) (path : Path) (v : Value) : Prop :=
  FileTree.isNameable path.text = true ∧
    ∃ bytes, t.read path.text = .ok bytes ∧ yaml bytes = .ok v

/-- The entries of two files differ in masked fields only. Keys that no field has may stand in another
order. -/
structure DifferMasked (env : Environment) (given : Option Path)
    (entries others : List (Datum × Value)) : Prop where
  unmasked : SameUnmasked env given entries others
  unknown : ∃ keys, (unknownKeys entries).Perm keys ∧
    List.Forall₂ Datum.Alike keys (unknownKeys others)

theorem content_of_entries? {v : Value} (h : entries? v = some entries) :
    (v.content = .datum .null ∧ entries = []) ∨ v.content = .map entries := by
  unfold entries? at h
  split at h
  · next hv =>
    cases h
    exact .inl ⟨hv, rfl⟩
  · next hv =>
    cases h
    exact .inr hv
  · cases h

theorem entriesOf_eq {v : Value} (path : Path) (h : entries? v = some entries) :
    entriesOf path v = (do
      let unknown ← (unknownKeys entries).mapM fun key => (Value.ofDatum key).written
      if unknown.isEmpty then return entries
      else throw (.settings (.unknownKeys path (Text.sort unknown)))) := by
  obtain ⟨hv, rfl⟩ | hv := content_of_entries? h
  · rw [entriesOf, hv]
    rfl
  · rw [entriesOf, hv, unknownKeys, List.mapM_map]
    rfl

theorem readEntries_of_holds {yaml : Yaml.Reader} {t : FileTree} {path : Path} {v : Value}
    (h : Holds yaml t path v) : readEntries yaml t path = entriesOf path v := by
  obtain ⟨hname, bytes, hread, hyaml⟩ := h
  simp only [readEntries, hname, Bool.not_true, Bool.false_eq_true, if_false, hread, pure_bind, hyaml]

theorem written_ofDatum_failsOnly (d : Datum) :
    FailsOnly (· = .number .tooLong) (Value.ofDatum d).written :=
  (Value.toText_failsOnly _).mapError fun _ => congrArg Fault.number

/-- Mappings that differ in masked fields only are read alike: they give the same settings or the same
fault, also when they are refused for the keys that they have. -/
theorem entriesOf_agrees {v w : Value} (path : Path) (hv : entries? v = some entries)
    (hw : entries? w = some others) (h : DifferMasked env given entries others) :
    Agrees Alike (entriesOf path v >>= fun entries => ofOrigin ⟨env, entries⟩ given)
      (entriesOf path w >>= fun entries => ofOrigin ⟨env, entries⟩ given) := by
  obtain ⟨keys, hperm, halike⟩ := h.unknown
  have hunknown : Agrees List.Perm ((unknownKeys entries).mapM fun key => (Value.ofDatum key).written)
      ((unknownKeys others).mapM fun key => (Value.ofDatum key).written) := by
    rw [← mapM_congr_forall₂ (fun _ _ hd => written_ofDatum_alike hd) halike]
    exact .mapM_of_perm hperm written_ofDatum_failsOnly
  rw [entriesOf_eq path hv, entriesOf_eq path hw, bind_assoc, bind_assoc]
  refine hunknown.bind fun unknown unknown' hp => ?_
  rw [Text.sort_eq_of_perm hp, hp.isEmpty_eq]
  split
  · exact ofOrigin_agrees h.unmasked
  · exact .error _

/-! ## Variables -/

/-- A field is the same in two settings that are read from the same file, if its variable is the same. -/
theorem Field.agree_of_reads {o o' : Origin} {s t : Settings} {f : Field} (hfile : o'.file = o.file)
    (henv : ∀ x, f.envName? = some x → o'.environment.valueOf? x = o.environment.valueOf? x)
    (hs : f.Reads o given s) (ht : f.Reads o' given t) : f.Agree Eq s t := by
  have hvalue (default : Value) : f.value o' default = f.value o default := by
    unfold Field.value Origin.option
    cases hx : f.envName? with
    | none => simp only [hfile]
    | some x => simp only [hfile, henv x hx]
  cases f with
  | inclusion =>
    obtain ⟨excluded, hexcluded, hs⟩ := hs
    obtain ⟨excluded', hexcluded', ht⟩ := ht
    rw [henv _ rfl, hexcluded] at hexcluded'
    cases hexcluded'
    rw [hfile, hs] at ht
    exact Except.ok.inj ht
  | package =>
    simp only [Field.Reads, hvalue] at hs ht
    exact rel_of_eq (fun _ => rfl) (hs.symm.trans ht)
  | checks =>
    simp only [Field.Reads, hfile] at hs ht
    refine rel_of_eq (fun items => ?_) (Except.ok.inj (hs.symm.trans ht))
    exact List.forall₂_same.2 fun _ _ => rfl
  | _ =>
    simp only [Field.Reads, hvalue] at hs ht
    exact Except.ok.inj (hs.symm.trans ht)

/-! ## Settings -/

/-- The environment and the root that is given come before the file. -/
structure Masks (yaml : Yaml.Reader) (env : Environment) (file given : Option Path) : Prop where
  /-- Files that differ in masked fields only lead to the same settings, or to the same fault. -/
  agrees : ∀ {t t' : FileTree} {path : Path} {v v' : Value} {entries others : List (Datum × Value)},
    filePath env file = some path → Holds yaml t path v → Holds yaml t' path v' →
    entries? v = some entries →
    entries? v' = some others → DifferMasked env given entries others →
    Agrees Alike (load yaml t env file given) (load yaml t' env file given)
  /-- Another value of a variable, or none, leaves all fields but its own as they are. -/
  keeps : ∀ {t : FileTree} {env' : Environment} {f : Field} {x : String} {s s' : Settings},
    f.envName? = some x → (∀ y ≠ x, env'.valueOf? y = env.valueOf? y) →
    load yaml t env file given = .ok s → load yaml t env' file given = .ok s' →
    ∀ g ≠ f, Field.Agree Eq s s' g

theorem masks (yaml : Yaml.Reader) (env : Environment) (file given : Option Path) :
    Masks yaml env file given := by
  constructor
  · intro t t' path v v' entries others hpath hv hv' hentries hothers h
    rw [load_eq, load_eq]
    simp only [entriesFor, hpath, readEntries_of_holds hv, readEntries_of_holds hv']
    exact entriesOf_agrees path hentries hothers h
  · intro t env' f x s s' hx henv hs hs' g hne
    have hconfig : "CONFIG" ≠ x := fun he => f.envName?_ne_config (he ▸ hx)
    have hpath : filePath env' file = filePath env file := by
      rw [filePath, filePath, henv _ hconfig]
    rw [load_eq, bind_eq_ok_iff] at hs hs'
    obtain ⟨entries, hentries, hs⟩ := hs
    obtain ⟨entries', hentries', hs'⟩ := hs'
    rw [entriesFor, hpath, ← entriesFor, hentries] at hentries'
    cases hentries'
    refine Field.agree_of_reads ?_ ?_ (reads_of_ofOrigin hs g) (reads_of_ofOrigin hs' g)
    · rfl
    · exact fun y hy => henv y fun hyx => hne (Field.eq_of_envName? hy (hyx ▸ hx))

/-- The variable of the flags masks an entry in the file that could not be read. -/
theorem masks_malformedFlags :
    let t := FileTree.empty.plant "gate.yaml" (.file "flags: 5\n".toUTF8.toList false)
    let t' := FileTree.empty.plant "gate.yaml" (.file "flags: [tls]\n".toUTF8.toList false)
    let env := [("RELEASE_GATE_FLAGS", "net")]
    let file := some (Path.ofText "gate.yaml")
    (∃ fault, load Yaml.read t [] file none = .error fault ∧ fault.category = .badValue) ∧
      (∃ s, load Yaml.read t env file none = .ok s ∧ s.flags = ["net"]) ∧
      Agrees Alike (load Yaml.read t env file none) (load Yaml.read t' env file none) := by
  intro t t' env file
  have hfault : ((load Yaml.read t [] file none).map fun _ => ()).mapError Fault.category =
      .error .badValue := by
    decide +kernel
  have hnet : (load Yaml.read t env file none).toOption.map flags = some ["net"] := by decide +kernel
  refine ⟨exists_error_of_mapError hfault, exists_ok_of_toOption hnet, ?_⟩
  -- both documents are mappings with no other key than that of the flags
  have hread (s : String)
      (hs : (Yaml.read s.toUTF8.toList).toOption.map (fun v => (entries? v).any fun entries =>
        (unknownKeys entries).isEmpty &&
          Field.all.all fun f => f == .flags || (Value.lookup entries f.key).isNone) = some true) :
      ∃ v entries, Yaml.read s.toUTF8.toList = .ok v ∧ entries? v = some entries ∧
        unknownKeys entries = [] ∧ ∀ f ≠ Field.flags, Value.lookup entries f.key = none := by
    obtain ⟨v, hv, hkeys⟩ := exists_ok_of_toOption hs
    obtain ⟨entries, hentries, hkeys⟩ := (Option.any_eq_true _ _).1 hkeys
    simp only [Bool.and_eq_true, List.isEmpty_iff, List.all_eq_true, Bool.or_eq_true, beq_iff_eq,
      Option.isNone_iff_eq_none] at hkeys
    exact ⟨v, entries, hv, hentries, hkeys.1, fun f hne => (hkeys.2 f f.mem_all).resolve_left hne⟩
  obtain ⟨v, entries, hv, hentries, hunknown, hlookup⟩ := hread "flags: 5\n" (by decide +kernel)
  obtain ⟨v', others, hv', hothers, hunknown', hlookup'⟩ := hread "flags: [tls]\n" (by decide +kernel)
  have hholds : Holds Yaml.read t (.ofText "gate.yaml") v :=
    ⟨by decide, _, toOption_eq_some_iff.1 (by decide +kernel), hv⟩
  have hholds' : Holds Yaml.read t' (.ofText "gate.yaml") v' :=
    ⟨by decide, _, toOption_eq_some_iff.1 (by decide +kernel), hv'⟩
  refine (masks Yaml.read env file none).agrees rfl hholds hholds' hentries hothers ⟨fun f => ?_, ?_⟩
  · by_cases hf : f = .flags
    · subst hf
      exact .inl (.inr ⟨nofun, "FLAGS", rfl, by decide⟩)
    · rw [hlookup f hf, hlookup' f hf]
      exact .inr .none
  · rw [hunknown, hunknown']
    exact ⟨[], .refl _, .nil⟩

end Greenlight.Settings
