import Greenlight.Plan
import Greenlight.Proofs.FlagSet.Names
import Greenlight.Proofs.Settings.Spellings
import Greenlight.Proofs.Text.LowerCase

/-! # Sets of flags as texts

A set of flags has a name, and a text is read as a set. Main statement: reading a name gives its set, unless
the only flag of the set is a word for no flags at all, and what is read from a text is read again from the
row of its flags. -/

namespace Greenlight

open Text

/-- A flag that cutting and stripping leave alone. -/
structure IsFlagName (flag : String) : Prop where
  ne_empty : flag ≠ ""
  strip_eq : strip flag = flag
  comma : ',' ∉ flag.toList
  plus : '+' ∉ flag.toList

/-- A set whose flags can be told apart and whose only flag is no word for the set without flags. -/
structure FlagSet.IsReadable (s : FlagSet) : Prop where
  flags : ∀ flag ∈ s.names, IsFlagName flag
  dash : s ≠ ofList ["-"]
  word : ∀ flag, s = ofList [flag] → lower flag ≠ "none"

namespace Settings

variable {s a b : FlagSet} {v : Value} {xs : List String} {text mark : String} {c : Char}

/-! ## Rows of flags -/

theorem flagSetOfTexts_eq (h : ∀ x ∈ xs, IsFlagName x) : flagSetOfTexts xs = FlagSet.ofList xs := by
  have hstrip : xs.map strip = xs := map_eq_self fun x hx => (h x hx).strip_eq
  have hkept : xs.filter (!·.isEmpty) = xs :=
    List.filter_eq_self.2 fun x hx => by simpa using (h x hx).ne_empty
  rw [flagSetOfTexts, hstrip, hkept]

theorem readFlagSet_of_isTexts (h : v.IsTexts xs) : readFlagSet v = .ok (flagSetOfTexts xs) := by
  obtain ⟨items, hitems, htexts⟩ := h
  have hwritten := Value.mapM_written_of_texts htexts
  unfold readFlagSet
  obtain hc | ⟨a, b, hc⟩ := Value.content_of_items? hitems
  · simp only [hc, hitems, hwritten, Except.map]
  · simp only [hc, hitems, hwritten, Except.map]

theorem mem_flagSetOfTexts_iff {flag : String} :
    flag ∈ (flagSetOfTexts xs).names ↔ (∃ x ∈ xs, strip x = flag) ∧ flag ≠ "" := by
  have hmem : flag ∈ flagSetOfTexts xs ↔ flag ∈ (xs.map strip).filter (!·.isEmpty) :=
    FlagSet.mem_ofList
  refine hmem.trans ?_
  simp

/-- The flags of a set are read in any order, also when some of them come again. -/
theorem readFlagSet_of_members (hs : ∀ flag ∈ s.names, IsFlagName flag)
    (hx : ∀ flag, flag ∈ xs ↔ flag ∈ s.names) (h : v.IsTexts xs) : readFlagSet v = .ok s := by
  have hnames : ∀ x ∈ xs, IsFlagName x := fun x hm => hs x ((hx x).1 hm)
  have hset : FlagSet.ofList xs = s :=
    FlagSet.eq_of_mem_iff fun flag => FlagSet.mem_ofList.trans (hx flag)
  rw [readFlagSet_of_isTexts h, flagSetOfTexts_eq hnames, hset]

/-! ## Texts of sets -/

theorem isEmptySetWord_eq_false_iff :
    isEmptySetWord text = false ↔ text ≠ "" ∧ text ≠ "none" ∧ text ≠ "-" := by
  simp [isEmptySetWord, and_assoc]

/-- A text with a mark between its flags is no word for the set without flags. -/
theorem isEmptySetWord_of_mem (hc : IsMark c) (hdash : c ≠ '-') (h : c ∈ text.toList) :
    isEmptySetWord (lower text) = false := by
  have hlower : c ∈ (lower text).toList := by rwa [toList_lower, mem_lowerChars_iff hc]
  have hword {word : String} (hw : c ∉ word.toList) : lower text ≠ word := by
    rintro rfl
    exact hw hlower
  have hletters : c ∉ "none".toList := by
    have hall : "none".toList.all (fun letter => 65 ≤ letter.toNat) = true := by decide
    intro hm
    have hle : 65 ≤ c.toNat := of_decide_eq_true (List.all_eq_true.1 hall c hm)
    exact absurd hc.2 (Nat.not_lt.2 hle)
  rw [isEmptySetWord_eq_false_iff]
  exact ⟨hword List.not_mem_nil, hword hletters, hword (mt List.mem_singleton.1 hdash)⟩

/-- A single flag of a readable set is no such word either. -/
theorem isEmptySetWord_of_singleton {flag : String} (h : s.IsReadable)
    (hs : s = FlagSet.ofList [flag]) : isEmptySetWord (lower flag) = false := by
  have hflag : IsFlagName flag := h.flags flag (hs ▸ List.mem_singleton_self flag)
  have hblank : lower flag ≠ "" := by
    intro he
    have hle := length_le_lowerAfter [] flag.toList
    rw [← lowerChars, ← toList_lower, he] at hle
    exact hflag.ne_empty (String.toList_eq_nil_iff.1 (List.length_eq_zero_iff.1 (Nat.le_zero.1 hle)))
  have hminus : lower flag ≠ "-" := by
    intro he
    rw [← String.toList_inj, toList_lower] at he
    have hmark : IsMark '-' := by decide
    have hdash : flag = "-" := String.toList_inj.1 (eq_of_lowerChars_eq_mark hmark he)
    exact h.dash (hdash ▸ hs)
  rw [isEmptySetWord_eq_false_iff]
  exact ⟨hblank, h.word flag hs, hminus⟩

theorem isEmptySetWord_join (h : s.IsReadable) (hne : s ≠ .empty) (hm : mark.toList = [c])
    (hc : IsMark c) (hdash : c ≠ '-') : isEmptySetWord (lower (join mark s.names)) = false := by
  have hnames : s.names ≠ [] := FlagSet.names_ne_nil_iff.2 hne
  cases hn : s.names with
  | nil => exact absurd hn hnames
  | cons first more =>
    cases more with
    | nil =>
      rw [join_singleton]
      exact isEmptySetWord_of_singleton h (FlagSet.names_inj.1 hn)
    | cons next more =>
      apply isEmptySetWord_of_mem hc hdash
      rw [join_cons_cons, String.toList_append, String.toList_append, hm]
      simp

/-- The flags between commas. -/
theorem flatMap_pieces_join_comma (h : ∀ x ∈ xs, IsFlagName x) (hne : xs ≠ []) :
    (pieces ',' (join "," xs)).flatMap (pieces '+') = xs := by
  rw [pieces_join_of_not_mem rfl hne fun x hx => (h x hx).comma,
    flatMap_pieces_of_not_mem fun x hx => (h x hx).plus]

/-- The flags between plus signs. -/
theorem flatMap_pieces_join_plus (h : ∀ x ∈ xs, IsFlagName x) (hne : xs ≠ []) :
    (pieces ',' (join "+" xs)).flatMap (pieces '+') = xs := by
  have hcomma : ',' ∉ (join "+" xs).toList := by
    rw [mem_toList_join_iff (by decide)]
    rintro ⟨x, hx, hm⟩
    exact (h x hx).comma hm
  rw [pieces_of_not_mem hcomma, List.flatMap_singleton,
    pieces_join_of_not_mem rfl hne fun x hx => (h x hx).plus]

theorem readFlagSet_join (h : s.IsReadable) (hne : s ≠ .empty)
    (hm : mark = "," ∨ mark = "+") : readFlagSet (.text (join mark s.names)) = .ok s := by
  have hnames : s.names ≠ [] := FlagSet.names_ne_nil_iff.2 hne
  obtain ⟨c, hc, hmark, hdash, hblank⟩ :
      ∃ c, mark.toList = [c] ∧ IsMark c ∧ c ≠ '-' ∧ isBlank c = false := by
    rcases hm with rfl | rfl
    · exact ⟨',', by decide⟩
    · exact ⟨'+', by decide⟩
  have hpieces : (pieces ',' (join mark s.names)).flatMap (pieces '+') = s.names := by
    rcases hm with rfl | rfl
    · exact flatMap_pieces_join_comma h.flags hnames
    · exact flatMap_pieces_join_plus h.flags hnames
  have hstrip := strip_join hc hblank fun flag hf => (h.flags flag hf).strip_eq
  have hword := isEmptySetWord_join h hne hc hmark hdash
  change Except.ok (flagSetOfText (join mark s.names)) = _
  simp only [flagSetOfText, hstrip, hword, hpieces, flagSetOfTexts_eq h.flags, FlagSet.ofList_names,
    Bool.false_eq_true, if_false]

/-- A name is read as its set. -/
theorem readFlagSet_nameOf (h : s.IsReadable) : readFlagSet (.text (FeatureSet.nameOf s)) = .ok s := by
  by_cases hne : s = .empty
  · subst hne
    have hempty : flagSetOfText (FeatureSet.nameOf .empty) = .empty := by decide
    exact congrArg Except.ok hempty
  · rw [FeatureSet.nameOf_of_ne_empty hne]
    exact readFlagSet_join h hne (.inr rfl)

/-! ## Sets of texts -/

theorem isFlagName_of_mem_flagSetOfText {flag : String} (h : flag ∈ (flagSetOfText text).names) :
    IsFlagName flag := by
  unfold flagSetOfText at h
  dsimp only at h
  split at h
  · cases h
  · obtain ⟨⟨piece, hpiece, rfl⟩, hkept⟩ := mem_flagSetOfTexts_iff.1 h
    obtain ⟨row, hrow, hpiece⟩ := List.mem_flatMap.1 hpiece
    constructor
    · exact hkept
    · exact strip_strip piece
    · intro hc
      have hin := (of_mem_pieces hpiece (mem_of_mem_strip hc)).2
      exact (of_mem_pieces hrow hin).1 rfl
    · intro hc
      exact (of_mem_pieces hpiece (mem_of_mem_strip hc)).1 rfl

/-- Names of sets, rows of flags and texts are read as the same sets. -/
structure ReadsBack : Prop where
  /-- The name of a set, also of the one without flags. -/
  name : ∀ {s : FlagSet}, s.IsReadable → readFlagSet (.text (FeatureSet.nameOf s)) = .ok s
  /-- Its flags in ascending order with commas between them. -/
  commas : ∀ {s : FlagSet}, s.IsReadable → s ≠ .empty →
    readFlagSet (.text (join "," s.names)) = .ok s
  /-- A list of its flags, in any order. -/
  members : ∀ {s : FlagSet} {v : Value} {xs : List String}, s.IsReadable →
    (∀ flag, flag ∈ xs ↔ flag ∈ s.names) → v.IsTexts xs → readFlagSet v = .ok s
  /-- Different sets have different names, and tasks with different ids. -/
  distinct : ∀ {a b : FlagSet}, a.IsReadable → b.IsReadable → a ≠ b →
    FeatureSet.nameOf a ≠ FeatureSet.nameOf b ∧
      ∀ t, (Plan.testTask t (.of a)).id ≠ (Plan.testTask t (.of b)).id
  /-- Every text is read, as flags that are read again from a list of them. -/
  text : ∀ text, ∃ s, readFlagSet (.text text) = .ok s ∧ (∀ flag ∈ s.names, IsFlagName flag) ∧
    ∀ {v : Value} {xs : List String}, (∀ flag, flag ∈ xs ↔ flag ∈ s.names) → v.IsTexts xs →
      readFlagSet v = .ok s

theorem nameOf_ne (ha : a.IsReadable) (hb : b.IsReadable) (h : a ≠ b) :
    FeatureSet.nameOf a ≠ FeatureSet.nameOf b := by
  intro he
  have hread := readFlagSet_nameOf ha
  rw [he, readFlagSet_nameOf hb] at hread
  exact h (Except.ok.inj hread).symm

theorem readsBack : ReadsBack := by
  constructor
  · exact readFlagSet_nameOf
  · intro s h hne
    exact readFlagSet_join h hne (.inl rfl)
  · intro s v xs h
    exact readFlagSet_of_members h.flags
  · intro a b ha hb h
    refine ⟨nameOf_ne ha hb h, fun t he => nameOf_ne ha hb h ?_⟩
    simpa [Plan.testTask, FeatureSet.of] using he
  · intro text
    have hflags : ∀ flag ∈ (flagSetOfText text).names, IsFlagName flag :=
      fun flag => isFlagName_of_mem_flagSetOfText
    exact ⟨flagSetOfText text, rfl, hflags, readFlagSet_of_members hflags⟩

/-- The word for no flags is a flag like any other beside a second one. -/
theorem readsBack_noneTls :
    let s := FlagSet.ofList ["tls", "none"]
    s.IsReadable ∧ readFlagSet (.text "none+tls") = .ok s ∧
      readFlagSet (.list (["tls", "none"].map .text)) = .ok s := by
  intro s
  have hnames : s.names = ["none", "tls"] := by decide
  have hname : FeatureSet.nameOf s = "none+tls" := by decide
  have hreadable : s.IsReadable := by
    constructor
    · simp only [hnames, List.forall_mem_cons, List.not_mem_nil, false_implies, implies_true,
        and_true]
      exact ⟨⟨by decide, by decide, by decide, by decide⟩,
        ⟨by decide, by decide, by decide, by decide⟩⟩
    · decide
    · intro flag h
      have hsize : 2 = 1 := congrArg FlagSet.size h
      exact absurd hsize (by decide)
  have hmembers : ∀ flag, flag ∈ ["tls", "none"] ↔ flag ∈ s.names := fun _ =>
    FlagSet.mem_ofList.symm
  have hread := readsBack.name hreadable
  rw [hname] at hread
  exact ⟨hreadable, hread, readsBack.members hreadable hmembers (Value.isTexts_list _)⟩

end Settings

end Greenlight
