import Greenlight.Proofs.Discovery.Selection
import Greenlight.Proofs.Failing
import Greenlight.Proofs.FileTree.Listing
import Greenlight.Proofs.Path

/-! # Examples that a crate offers

An example is declared in the manifest, or it lies in the folder of examples: a source file, or a folder
with a main file. Main statement: of the examples of one name the first declared one is found, or the one
in the folder with the first file name; denied names are left out and nothing else, and it does not matter
in which order the folder is listed. -/

namespace Greenlight.Discovery

variable {t : FileTree} {root folder : Path} {manifest : Toml.Table} {entry : Toml.Value}
  {name file : String} {e : Example} {found : List Example}

/-! ## Declared examples -/

/-- The entries of a manifest for examples. -/
def declarations (manifest : Toml.Table) : List Toml.Value :=
  match Entries.get? manifest "example" with
  | some (.list entries) => entries
  | _ => []

/-- An entry of a manifest declares an example of a name. -/
def Declares (entry : Toml.Value) (name : String) : Prop :=
  ∃ table, entry = .table table ∧ Entries.get? table "name" = some (.datum (.text name))

/-- An entry of a manifest and the example that it declares. -/
inductive Example.DeclaredBy (root : Path) : Toml.Value → Example → Prop where
  /-- The entry names the main file. -/
  | path {table : Toml.Table} {name main : String}
      (hn : Entries.get? table "name" = some (.datum (.text name)))
      (hp : Entries.get? table "path" = some (.datum (.text main))) (hne : main ≠ "") :
      DeclaredBy root (.table table) ⟨name, root.join (.ofText main)⟩
  /-- The entry names none, or nothing that counts as one: the name stands for a source file. -/
  | name {table : Toml.Table} {name : String}
      (hn : Entries.get? table "name" = some (.datum (.text name)))
      (hp : ∀ value, Entries.get? table "path" = some value → value.holds = false) :
      DeclaredBy root (.table table) ⟨name, root.join (.ofText s!"{examplesFolder}/{name}.rs")⟩

theorem entryPath_eq_ok_iff {table : Toml.Table} {name : String} {path : Path} :
    entryPath table name = .ok path ↔
      (∃ main, Entries.get? table "path" = some (.datum (.text main)) ∧ main ≠ "" ∧
        .ofText main = path) ∨
      (∀ value, Entries.get? table "path" = some value → value.holds = false) ∧
        .ofText s!"{examplesFolder}/{name}.rs" = path := by
  unfold entryPath
  split
  · next main hp =>
      by_cases hm : main = ""
      · simp [hp, hm, Toml.Value.holds, Datum.holds]
      · simp [hp, hm, Toml.Value.holds, Datum.holds]
  · next value hne hp =>
      split
      · next hv => simp_all
      · next hv => simp_all
  · next hp => simp [hp]

theorem ofEntry_eq_ok_iff : Example.ofEntry root entry = .ok e ↔ Example.DeclaredBy root entry e := by
  unfold Example.ofEntry
  constructor
  · intro h
    split at h
    · next table =>
        split at h
        · next name hn =>
            obtain ⟨path, hpath, rfl⟩ := map_eq_ok_iff.1 h
            rcases entryPath_eq_ok_iff.1 hpath with ⟨main, hp, hne, rfl⟩ | ⟨hp, rfl⟩
            · exact .path hn hp hne
            · exact .name hn hp
        · cases h
    · cases h
  · intro h
    cases h with
    | path hn hp hne =>
      simp only [hn, map_eq_ok_iff]
      exact ⟨_, entryPath_eq_ok_iff.2 (.inl ⟨_, hp, hne, rfl⟩), rfl⟩
    | name hn hp =>
      simp only [hn, map_eq_ok_iff]
      exact ⟨_, entryPath_eq_ok_iff.2 (.inr ⟨hp, rfl⟩), rfl⟩

theorem declares_iff_of_ofEntry (h : Example.ofEntry root entry = .ok e) :
    Declares entry name ↔ e.name = name := by
  have hname {table : Toml.Table} {own : String}
      (hn : Entries.get? table "name" = some (.datum (.text own))) :
      Declares (.table table) name ↔ own = name := by
    constructor
    · rintro ⟨_, ⟨⟩, hother⟩
      rw [hn] at hother
      cases hother
      rfl
    · rintro rfl
      exact ⟨table, rfl, hn⟩
  cases ofEntry_eq_ok_iff.1 h with
  | path hn _ _ => exact hname hn
  | name hn _ => exact hname hn

/-- Each entry for an example declares one. -/
theorem mapM_declarations {declared : List Example}
    (h : declaredExamples root manifest = .ok declared) :
    (declarations manifest).mapM (Example.ofEntry root) = .ok declared := by
  unfold declaredExamples at h
  unfold declarations
  cases hv : Entries.get? manifest "example" with
  | none =>
    rw [hv] at h
    exact h
  | some value =>
    rw [hv, Option.getD_some] at h
    split at h
    · exact h
    · cases h

/-- The first declaration of a name gives the first declared example of that name. -/
theorem find?_declared {before after : List Toml.Value} {declared : List Example}
    (h : (before ++ entry :: after).mapM (Example.ofEntry root) = .ok declared)
    (he : Declares entry name) (hb : ∀ earlier ∈ before, ¬Declares earlier name) :
    ∃ e, declared.find? (·.name == name) = some e ∧ Example.ofEntry root entry = .ok e := by
  rw [mapM_eq_ok_iff] at h
  induction before generalizing declared with
  | nil =>
    obtain ⟨e, rest, hof, -, rfl⟩ := List.forall₂_cons_left_iff.1 h
    have hn : e.name = name := (declares_iff_of_ofEntry hof).1 he
    exact ⟨e, by simp [hn], hof⟩
  | cons earlier before ih =>
    obtain ⟨first, rest, hof, hrest, rfl⟩ := List.forall₂_cons_left_iff.1 h
    obtain ⟨hearlier, hbefore⟩ := List.forall_mem_cons.1 hb
    have hn : first.name ≠ name := fun hn => hearlier ((declares_iff_of_ofEntry hof).2 hn)
    obtain ⟨e, hfind, hof⟩ := ih hrest hbefore
    exact ⟨e, by simpa [hn] using hfind, hof⟩

theorem mem_map_name_declared {entries : List Toml.Value} {declared : List Example}
    (h : entries.mapM (Example.ofEntry root) = .ok declared) :
    name ∈ declared.map (·.name) ↔ ∃ entry ∈ entries, Declares entry name := by
  rw [mapM_eq_ok_iff] at h
  induction h with
  | nil => simp
  | cons hof _ ih =>
    rw [List.map_cons, List.mem_cons, List.exists_mem_cons_iff, ih, declares_iff_of_ofEntry hof, eq_comm]

theorem find?_declared_eq_none {entries : List Toml.Value} {declared : List Example}
    (h : entries.mapM (Example.ofEntry root) = .ok declared)
    (hn : ∀ entry ∈ entries, ¬Declares entry name) : declared.find? (·.name == name) = none := by
  rw [List.find?_eq_none]
  rintro e he hsame
  obtain ⟨entry, hm, hd⟩ := (mem_map_name_declared h).1 (List.mem_map_of_mem he)
  exact hn entry hm (beq_iff_eq.1 hsame ▸ hd)

/-! ## Examples in the folder -/

/-- The manifest says that the folder of examples is not to be looked through. -/
def TurnsSearchOff (manifest : Toml.Table) : Prop :=
  ∃ package value, Entries.get? manifest "package" = some (.table package) ∧
    Entries.get? package "autoexamples" = some value ∧ value.holds = false

theorem looksInFolder_eq_true_iff : looksInFolder manifest = true ↔ ¬TurnsSearchOff manifest := by
  unfold looksInFolder TurnsSearchOff
  split
  · next package hp =>
      rw [hp]
      cases hv : Entries.get? package "autoexamples" with
      | none => simp [hv, Toml.Value.holds, Datum.holds]
      | some value => simp [hv]
  · next hne =>
      refine iff_of_true rfl ?_
      rintro ⟨package, _, hp, -⟩
      exact hne package hp

/-- A name in a folder of examples, and the example that it stands for. -/
inductive Example.LiesIn (t : FileTree) (folder : Path) : String → Example → Prop where
  /-- A source file, whose ending does not belong to the name of the example. -/
  | source {stem file : String} (hs : stem ≠ "") (hn : file = stem ++ ".rs")
      (hf : t.isFile (folder.child file).text = true) : LiesIn t folder file ⟨stem, folder.child file⟩
  /-- A folder with a main file. -/
  | package {name : String} (hd : t.isFolder (folder.child name).text = true)
      (hf : t.isFile ((folder.child name).child "main.rs").text = true) :
      LiesIn t folder name ⟨name, (folder.child name).child "main.rs"⟩

theorem isEnding_rs : Path.IsEnding ".rs" := ⟨['r', 's'], by decide, by decide, rfl⟩

theorem ofName?_eq_some_iff : Example.ofName? t folder file = some e ↔ Example.LiesIn t folder file e := by
  unfold Example.ofName?
  dsimp only
  constructor
  · intro h
    split at h
    · next hs =>
        cases h
        rw [Bool.and_eq_true, beq_iff_eq, Path.ending_eq_iff isEnding_rs] at hs
        obtain ⟨hf, stem, hstem, hn⟩ := hs
        have hname : Path.stem file = stem := by rw [hn, Path.stem_append isEnding_rs hstem]
        rw [hname]
        exact .source hstem hn hf
    · split at h
      · next hp =>
          cases h
          rw [Bool.and_eq_true] at hp
          exact .package hp.1 hp.2
      · cases h
  · intro h
    cases h with
    | @source stem _ hs hn hf =>
      have hending : Path.ending file = ".rs" := (Path.ending_eq_iff isEnding_rs).2 ⟨stem, hs, hn⟩
      have hstem : Path.stem file = stem := by rw [hn, Path.stem_append isEnding_rs hs]
      simp [hf, hending, hstem]
    | package hd hf =>
      have hfile : t.isFile (folder.child file).text = false := by
        rw [← Bool.not_eq_true]
        intro hfile
        rw [FileTree.isFolder_of_isFile hfile] at hd
        cases hd
      simp [hd, hf, hfile]

/-- The folder of examples is looked through if it is there, and then it must be readable. -/
theorem examplesInFolder_eq_ok_iff :
    examplesInFolder t folder = .ok found ↔
      (t.isFolder folder.text = true ∧ t.denies folder.text = false ∧
        found = (Text.sort (t.list folder.text)).filterMap (Example.ofName? t folder)) ∨
      t.isFolder folder.text = false ∧ found = [] := by
  unfold examplesInFolder FileTree.listing
  by_cases hd : t.isFolder folder.text = true
  · by_cases hr : t.denies folder.text = true
    · simp [hd, hr]
    · simpa [hd, hr] using eq_comm
  · simp [hd]

theorem mem_map_name_examplesInFolder (h : examplesInFolder t folder = .ok found) :
    name ∈ found.map (·.name) ↔
      t.isFolder folder.text = true ∧
        ∃ file ∈ t.list folder.text, ∃ path, Example.LiesIn t folder file ⟨name, path⟩ := by
  rcases examplesInFolder_eq_ok_iff.1 h with ⟨hd, -, rfl⟩ | ⟨hd, rfl⟩
  · simp only [List.mem_map, List.mem_filterMap, Text.mem_sort, ofName?_eq_some_iff]
    constructor
    · rintro ⟨e, ⟨file, hm, he⟩, rfl⟩
      exact ⟨hd, file, hm, e.path, he⟩
    · rintro ⟨-, file, hm, path, he⟩
      exact ⟨⟨name, path⟩, ⟨file, hm, he⟩, rfl⟩
  · simp [hd]

/-- Of several examples of one name, the one with the first file name is found in the folder. -/
theorem find?_examplesInFolder (hf : examplesInFolder t folder = .ok found)
    (h : found.find? (·.name == name) = some e) :
    ∃ file ∈ t.list folder.text, Example.LiesIn t folder file e ∧
      ∀ other ∈ t.list folder.text, ∀ e', Example.LiesIn t folder other e' → e'.name = name →
        file ≤ other := by
  rcases examplesInFolder_eq_ok_iff.1 hf with ⟨-, -, rfl⟩ | ⟨-, rfl⟩
  · rw [List.find?_filterMap, Option.bind_eq_some_iff] at h
    obtain ⟨file, hfile, he⟩ := h
    obtain ⟨-, before, after, hsort, hbefore⟩ := List.find?_eq_some_iff_append.1 hfile
    have hmem (other : String) : other ∈ t.list folder.text ↔ other ∈ before ++ file :: after := by
      rw [← hsort, Text.mem_sort]
    have hsorted := Text.pairwise_sort (t.list folder.text)
    rw [hsort] at hsorted
    refine ⟨file, (hmem file).2 (by simp), ofName?_eq_some_iff.1 he, fun other ho e' he' hn => ?_⟩
    rw [hmem, List.mem_append, List.mem_cons] at ho
    rcases ho with ho | rfl | ho
    · -- an earlier file name stands for no example of this name
      have hnone := hbefore other ho
      rw [ofName?_eq_some_iff.2 he'] at hnone
      simp [hn] at hnone
    · exact String.le_refl other
    · have hle := List.rel_of_pairwise_cons (List.pairwise_append.1 hsorted).2.1 ho
      exact of_decide_eq_true hle
  · cases h

/-! ## Examples of a tree -/

theorem examples_eq_ok_iff {denied : List String} :
    examples t root denied = .ok found ↔
      checkRoot t root = .ok () ∧ ∃ manifest, readManifest t root = .ok manifest ∧
        ∃ offered, offeredExamples t root manifest = .ok offered ∧
          found = selectExamples denied offered := by
  rw [examples, then_eq_ok_iff]
  simp only [bind_eq_ok_iff, pure, Except.pure, Except.ok.injEq, @eq_comm _ found]

theorem offeredExamples_eq_ok_iff {offered : List Example} :
    offeredExamples t root manifest = .ok offered ↔
      ∃ declared, declaredExamples root manifest = .ok declared ∧
        ((looksInFolder manifest = true ∧
          ∃ found, examplesInFolder t (root.child examplesFolder) = .ok found ∧
            offered = declared ++ found) ∨
          looksInFolder manifest = false ∧ offered = declared) := by
  unfold offeredExamples
  rw [bind_eq_ok_iff]
  refine exists_congr fun declared => and_congr_right fun _ => ?_
  by_cases hl : looksInFolder manifest = true
  · simp only [hl, if_true, bind_eq_ok_iff, pure, Except.pure, Except.ok.injEq, @eq_comm _ offered,
      true_and, Bool.true_eq_false, false_and, or_false]
  · simp [hl, pure, Except.pure, eq_comm]

theorem examplesInFolder_of_reordered {other : FileTree} (h : t.Reordered other) (folder : Path) :
    examplesInFolder other folder = examplesInFolder t folder := by
  have hname : Example.ofName? other folder = Example.ofName? t folder := by
    funext name
    simp only [Example.ofName?, h.isFile_eq, h.isFolder_eq]
  simp only [examplesInFolder, FileTree.listing, ← h.isFolder_eq, ← h.denies_eq, hname]
  split
  · by_cases hr : t.denies folder.text = true
    · simp [hr]
    · simp [hr, Text.sort_eq_of_perm (h.list_perm folder.text)]
  · rfl

/-- The order in which a tree holds its entries does not matter. -/
theorem examples_of_reordered {other : FileTree} (h : t.Reordered other) (root : Path)
    (denied : List String) : examples other root denied = examples t root denied := by
  have hroot : checkRoot other root = checkRoot t root := by
    by_cases hr : t.denies root.text = true <;>
      simp [checkRoot, FileTree.listing, ← h.isFolder_eq, ← h.find_eq, ← h.denies_eq, hr]
  have hmanifest : readManifest other root = readManifest t root := by
    simp only [readManifest, h.isFile_eq, h.read_eq]
  simp only [examples, offeredExamples, hroot, hmanifest, examplesInFolder_of_reordered h]

theorem isNameable_of_checkRoot (h : checkRoot t root = .ok ()) :
    FileTree.isNameable root.text = true := by
  unfold checkRoot at h
  split at h
  · next hd => exact (Bool.and_eq_true _ _ ▸ hd).1
  · split at h <;> cases h

/-- What is listed in the folder of examples lies in a folder. -/
theorem isFolder_of_mem_examplesFolder (h : checkRoot t root = .ok ())
    (hm : file ∈ t.list (root.child examplesFolder).text) :
    t.isFolder (root.child examplesFolder).text = true := by
  refine FileTree.isFolder_of_mem_list hm ?_
  have hnames := (isNameable_text_iff root).1 (isNameable_of_checkRoot h)
  rw [root.child_eq (by decide) (by decide), isNameable_text_iff, List.forall_mem_append,
    List.forall_mem_singleton]
  exact ⟨hnames, by decide⟩

/-! ## What is offered under a name -/

section Offered

variable {offered : List Example} (h : offeredExamples t root manifest = .ok offered)
include h

/-- The names under which something is declared, or lies in the folder of examples. -/
theorem mem_map_name_offered (hroot : checkRoot t root = .ok ()) :
    name ∈ offered.map (·.name) ↔
      (∃ entry ∈ declarations manifest, Declares entry name) ∨
        ¬TurnsSearchOff manifest ∧ ∃ file ∈ t.list (root.child examplesFolder).text, ∃ path,
          Example.LiesIn t (root.child examplesFolder) file ⟨name, path⟩ := by
  obtain ⟨declared, hdeclared, hrest⟩ := offeredExamples_eq_ok_iff.1 h
  rw [← looksInFolder_eq_true_iff]
  rcases hrest with ⟨hl, found, hfound, rfl⟩ | ⟨hl, rfl⟩
  · rw [List.map_append, List.mem_append, mem_map_name_declared (mapM_declarations hdeclared),
      mem_map_name_examplesInFolder hfound, and_iff_right hl]
    exact or_congr_right
      (and_iff_right_of_imp fun ⟨_, hm, _⟩ => isFolder_of_mem_examplesFolder hroot hm)
  · simp [mem_map_name_declared (mapM_declarations hdeclared), hl]

/-- The first declaration of a name is offered first. -/
theorem find?_offered_of_declared {before after : List Toml.Value}
    (hd : declarations manifest = before ++ entry :: after) (he : Declares entry name)
    (hb : ∀ earlier ∈ before, ¬Declares earlier name) :
    ∃ e, offered.find? (·.name == name) = some e ∧ Example.ofEntry root entry = .ok e := by
  obtain ⟨declared, hdeclared, hrest⟩ := offeredExamples_eq_ok_iff.1 h
  have hentries := mapM_declarations hdeclared
  rw [hd] at hentries
  obtain ⟨e, hfind, hof⟩ := find?_declared hentries he hb
  refine ⟨e, ?_, hof⟩
  rcases hrest with ⟨-, found, -, rfl⟩ | ⟨-, rfl⟩
  · rw [List.find?_append, hfind, Option.some_or]
  · exact hfind

/-- Without a declaration, the first file name is offered first. -/
theorem find?_offered_of_not_declared (hn : ∀ entry ∈ declarations manifest, ¬Declares entry name)
    (hfind : offered.find? (·.name == name) = some e) :
    ∃ file ∈ t.list (root.child examplesFolder).text,
      Example.LiesIn t (root.child examplesFolder) file e ∧
        ∀ other ∈ t.list (root.child examplesFolder).text, ∀ e',
          Example.LiesIn t (root.child examplesFolder) other e' → e'.name = name → file ≤ other := by
  obtain ⟨declared, hdeclared, hrest⟩ := offeredExamples_eq_ok_iff.1 h
  have hnone := find?_declared_eq_none (mapM_declarations hdeclared) hn
  rcases hrest with ⟨-, found, hfound, rfl⟩ | ⟨-, rfl⟩
  · rw [List.find?_append, hnone, Option.none_or] at hfind
    exact find?_examplesInFolder hfound hfind
  · rw [hnone] at hfind
    cases hfind

end Offered

/-! ## Examples that are found -/

/-- The examples that are found in a crate if no name is denied, and what is found of them if names are. -/
structure DiscoversExamples (t : FileTree) (root : Path) (manifest : Toml.Table)
    (found : List Example) : Prop where
  /-- Denied names are left out, and nothing else. -/
  denied : ∀ denied, examples t root denied = .ok (found.filter fun e => !denied.contains e.name)
  ascending : found.Pairwise fun a b => a.name < b.name
  mem_names_iff : ∀ name, name ∈ found.map (·.name) ↔
    (∃ entry ∈ declarations manifest, Declares entry name) ∨
      ¬TurnsSearchOff manifest ∧ ∃ file ∈ t.list (root.child examplesFolder).text, ∃ path,
        Example.LiesIn t (root.child examplesFolder) file ⟨name, path⟩
  /-- The first declaration of a name counts, whatever else is declared or lies in the folder. -/
  declaredFirst : ∀ before entry after, declarations manifest = before ++ entry :: after →
    ∀ name, Declares entry name → (∀ earlier ∈ before, ¬Declares earlier name) →
      ∃ e ∈ found, e.name = name ∧ Example.DeclaredBy root entry e
  /-- Without a declaration, the first file name counts. -/
  fileFirst : ∀ e ∈ found, (∀ entry ∈ declarations manifest, ¬Declares entry e.name) →
    ∃ file ∈ t.list (root.child examplesFolder).text,
      Example.LiesIn t (root.child examplesFolder) file e ∧
        ∀ other ∈ t.list (root.child examplesFolder).text, ∀ e',
          Example.LiesIn t (root.child examplesFolder) other e' → e'.name = e.name → file ≤ other
  /-- The order in which the entries of the tree are listed does not matter. -/
  reordered : ∀ other, t.Reordered other → ∀ denied, examples other root denied = examples t root denied

/-- A crate whose examples are found without a denied name has them found by declaration and file name. -/
theorem examples_discovers (h : examples t root [] = .ok found) :
    ∃ manifest, readManifest t root = .ok manifest ∧ DiscoversExamples t root manifest found := by
  obtain ⟨hroot, manifest, hmanifest, offered, hoffered, rfl⟩ := examples_eq_ok_iff.1 h
  refine ⟨manifest, hmanifest, ?_, pairwise_selectExamples [] offered, ?_, ?_, ?_, ?_⟩
  · intro denied
    exact examples_eq_ok_iff.2
      ⟨hroot, manifest, hmanifest, offered, hoffered, (selectExamples_eq_filter denied offered).symm⟩
  · intro name
    rw [mem_map_name_selectExamples_nil]
    exact mem_map_name_offered hoffered hroot
  · intro before entry after hd name he hb
    obtain ⟨e, hfind, hof⟩ := find?_offered_of_declared hoffered hd he hb
    have hn : e.name = name := (declares_iff_of_ofEntry hof).1 he
    exact ⟨e, mem_selectExamples.2 ⟨rfl, hn ▸ hfind⟩, hn, ofEntry_eq_ok_iff.1 hof⟩
  · intro e he hn
    exact find?_offered_of_not_declared hoffered hn (mem_selectExamples.1 he).2
  · exact fun other ho denied => examples_of_reordered ho root denied

/-- A declared example goes before the source file of its name. -/
theorem examples_discovers_demo :
    let manifest := "[[example]]\nname = \"demo\"\npath = \"src/demo.rs\"\n"
    let t := (FileTree.empty.plant "Cargo.toml" (.file manifest.toUTF8.toList false)).plant
      "examples/demo.rs" (.file [] false)
    let found : List Example := [⟨"demo", .ofText "src/demo.rs"⟩]
    examples t (.ofText ".") [] = .ok found ∧
      ∃ manifest, readManifest t (.ofText ".") = .ok manifest ∧
        DiscoversExamples t (.ofText ".") manifest found := by
  intro manifest t found
  have h : examples t (.ofText ".") [] = .ok found := toOption_eq_some_iff.1 (by decide +kernel)
  exact ⟨h, examples_discovers h⟩

end Greenlight.Discovery
