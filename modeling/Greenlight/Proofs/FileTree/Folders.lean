import Greenlight.FileTree

/-! # Folders that are made

The rules by which names lead through a tree are said apart from the program that follows them. Where
they lead to nothing, a folder can be put, and a folder that was made is there. -/

namespace Greenlight.FileTree

/-! ## Entries that are put -/

theorem node?_put_self {t : FileTree} {at_ : Position} (h : t.node? at_ ≠ some .folder) (node : Node) :
    (t.put at_ node).node? at_ = some node := by
  unfold node? at h ⊢
  split at h
  · exact absurd rfl h
  · next hp =>
      have hnone : (t.entries.filter (·.1 != at_)).find? (·.1 == at_) = none := by
        simp [List.find?_eq_none]
      rw [put, if_neg hp, List.find?_append, hnone]
      simp

theorem node?_put_of_ne {t : FileTree} {at_ other : Position} (h : other ≠ at_) (node : Node) :
    (t.put at_ node).node? other = t.node? other := by
  have hfilter : (t.entries.filter (·.1 != at_)).find? (·.1 == other) =
      t.entries.find? (·.1 == other) := by
    rw [List.find?_filter]
    congr 1
    funext entry
    by_cases he : entry.1 = other <;> simp [he, h]
  unfold node?
  rw [put, List.find?_append, hfilter]
  simp [Ne.symm h]

/-! ## Following names -/

/-- A name that stands for an entry of its folder and is short enough for one. -/
structure IsEntryName (name : String) : Prop where
  ne_here : ¬(name = "" ∨ name = ".")
  ne_above : name ≠ ".."
  size_le : ¬maxNameSize < name.utf8ByteSize

/-- The rules by which names lead from a position to a target, through at most `links` links. -/
inductive Walks (t : FileTree) (keepLast : Bool) : Nat → Position → List String → Target → Prop where
  | ends (links at_) : Walks t keepLast links at_ [] (.found at_ .folder)
  | stays {links at_ name rest target} (hn : name = "" ∨ name = ".") :
      Walks t keepLast links at_ rest target → Walks t keepLast links at_ (name :: rest) target
  | rises {links at_ rest target} :
      Walks t keepLast links (if at_.length ≤ 1 then at_ else at_.dropLast) rest target →
      Walks t keepLast links at_ (".." :: rest) target
  | vacant {links at_ name} (hn : IsEntryName name) (hm : t.node? (at_ ++ [name]) = none) :
      Walks t keepLast links at_ [name] (.vacant (at_ ++ [name]))
  | enters {links at_ name rest target} (hn : IsEntryName name)
      (hm : t.node? (at_ ++ [name]) = some .folder) :
      Walks t keepLast links (at_ ++ [name]) rest target →
      Walks t keepLast links at_ (name :: rest) target
  | finds {links at_ name content executable} (hn : IsEntryName name)
      (hm : t.node? (at_ ++ [name]) = some (.file content executable)) :
      Walks t keepLast links at_ [name] (.found (at_ ++ [name]) (.file content executable))
  | keeps {links at_ name link} (hn : IsEntryName name) (hk : keepLast = true)
      (hm : t.node? (at_ ++ [name]) = some (.link link)) :
      Walks t keepLast links at_ [name] (.found (at_ ++ [name]) (.link link))
  | follows {links at_ name rest link target} (hn : IsEntryName name)
      (hm : t.node? (at_ ++ [name]) = some (.link link)) (hk : (rest.isEmpty && keepLast) = false) :
      Walks t keepLast links (if link.startsWith "/" then [""] else at_)
        (Text.pieces '/' link ++ rest) target →
      Walks t keepLast (links + 1) at_ (name :: rest) target

/-- What stands behind a link is followed with one link less. -/
def following (t : FileTree) (keepLast : Bool) :
    Nat → Position → List String → Except FileProblem Target
  | 0 => fun _ _ => .error .linkLoop
  | links + 1 => t.walk keepLast links

theorem walk_eq (t : FileTree) (keepLast : Bool) (links : Nat) :
    t.walk keepLast links = t.walkTo keepLast (t.following keepLast links) := by
  cases links <;> rfl

variable {t next : FileTree} {keepLast : Bool} {links : Nat} {at_ : Position} {name : String}
  {names rest : List String} {target : Target}

/-- The step at a name that stands for an entry. -/
theorem walk_cons (hn : IsEntryName name) :
    t.walk keepLast links at_ (name :: rest) =
      match t.node? (at_ ++ [name]) with
      | none => if rest.isEmpty then .ok (.vacant (at_ ++ [name])) else .error .missing
      | some .folder => t.walk keepLast links (at_ ++ [name]) rest
      | some (.file content executable) =>
        if rest.isEmpty then .ok (.found (at_ ++ [name]) (.file content executable))
        else .error .notFolder
      | some (.link link) =>
        if rest.isEmpty && keepLast then .ok (.found (at_ ++ [name]) (.link link))
        else t.following keepLast links (if link.startsWith "/" then [""] else at_)
          (Text.pieces '/' link ++ rest) := by
  rw [walk_eq, walkTo, if_neg hn.ne_here, if_neg hn.ne_above]
  exact if_neg hn.size_le

/-- Names are followed by the rules. -/
theorem walks_of_walk (h : t.walk keepLast links at_ names = .ok target) :
    Walks t keepLast links at_ names target := by
  induction links using Nat.strongRecOn generalizing at_ names target with
  | ind links ihLinks =>
    induction names generalizing at_ with
    | nil =>
      rw [walk_eq] at h
      cases h
      exact .ends links at_
    | cons name rest ih =>
      by_cases hhere : name = "" ∨ name = "."
      · rw [walk_eq, walkTo, if_pos hhere, ← walk_eq] at h
        exact .stays hhere (ih h)
      by_cases habove : name = ".."
      · rw [walk_eq, walkTo, if_neg hhere, if_pos habove, ← walk_eq] at h
        exact habove ▸ .rises (ih h)
      by_cases hsize : maxNameSize < name.utf8ByteSize
      · rw [walk_eq, walkTo, if_neg hhere, if_neg habove, if_pos hsize] at h
        cases h
      have hn : IsEntryName name := ⟨hhere, habove, hsize⟩
      rw [walk_cons hn] at h
      split at h
      · next hm =>
          split at h
          · next hr =>
              cases h
              obtain rfl := List.isEmpty_iff.1 hr
              exact .vacant hn hm
          · cases h
      · next hm => exact .enters hn hm (ih h)
      · next content executable hm =>
          split at h
          · next hr =>
              cases h
              obtain rfl := List.isEmpty_iff.1 hr
              exact .finds hn hm
          · cases h
      · next link hm =>
          split at h
          · next hk =>
              cases h
              rw [Bool.and_eq_true, List.isEmpty_iff] at hk
              obtain ⟨rfl, hk⟩ := hk
              exact .keeps hn hk hm
          · next hk =>
              cases links with
              | zero => cases h
              | succ links =>
                exact .follows hn hm (Bool.not_eq_true _ ▸ hk) (ihLinks links (Nat.lt_succ_self _) h)

theorem walk_of_walks (h : Walks t keepLast links at_ names target) :
    t.walk keepLast links at_ names = .ok target := by
  induction h with
  | ends => rw [walk_eq, walkTo]
  | stays hn _ ih => rwa [walk_eq, walkTo, if_pos hn, ← walk_eq]
  | rises _ ih => rwa [walk_eq, walkTo, if_neg (by decide), if_pos rfl, ← walk_eq]
  | vacant hn hm => simp [walk_cons hn, hm]
  | enters hn hm _ ih => simpa [walk_cons hn, hm] using ih
  | finds hn hm => simp [walk_cons hn, hm]
  | keeps hn hk hm => simp [walk_cons hn, hm, hk]
  | follows hn hm hk _ ih =>
    simp only [walk_cons hn, hm, hk, Bool.false_eq_true, if_false]
    exact ih

namespace Walks

/-- Nothing is where names lead to nothing. -/
theorem node?_eq_none {at_' : Position} (h : Walks t keepLast links at_ names (.vacant at_')) :
    t.node? at_' = none := by
  generalize hv : Target.vacant at_' = target at h
  induction h with
  | ends | finds | keeps => cases hv
  | vacant hn hm =>
    cases hv
    exact hm
  | stays _ _ ih | rises _ ih | enters _ _ _ ih | follows _ _ _ _ ih => exact ih hv

/-- Names that led to nothing lead to the folder that is put there. -/
theorem put_folder {place : Position} (h : Walks t true links at_ names (.vacant place)) :
    Walks (t.put place .folder) false links at_ names (.found place .folder) := by
  have hnone := h.node?_eq_none
  have hkept {other : Position} {node : Node} (hm : t.node? other = some node) :
      (t.put place .folder).node? other = some node := by
    have hne : other ≠ place := by
      rintro rfl
      rw [hnone] at hm
      cases hm
    rwa [node?_put_of_ne hne]
  generalize hv : Target.vacant place = target at h
  induction h with
  | ends | finds | keeps => cases hv
  | stays hn _ ih => exact .stays hn (ih hv)
  | rises _ ih => exact .rises (ih hv)
  | vacant hn hm =>
    cases hv
    exact .enters hn (node?_put_self (by rw [hnone]; nofun) _) (.ends _ _)
  | enters hn hm _ ih => exact .enters hn (hkept hm) (ih hv)
  | follows hn hm hk _ ih => exact .follows hn (hkept hm) (Bool.and_false _) (ih hv)

/-- Names that lead to an entry name one. -/
theorem names_entry {place : Position} {node : Node}
    (h : Walks t false links at_ names (.found place node)) :
    ∃ place node, Walks t true links at_ names (.found place node) := by
  generalize hv : Target.found place node = target at h
  induction h with
  | vacant => cases hv
  | ends links at_ => exact ⟨_, _, .ends links at_⟩
  | stays hn _ ih =>
    obtain ⟨place, node, h⟩ := ih hv
    exact ⟨place, node, .stays hn h⟩
  | rises _ ih =>
    obtain ⟨place, node, h⟩ := ih hv
    exact ⟨place, node, .rises h⟩
  | enters hn hm _ ih =>
    obtain ⟨place, node, h⟩ := ih hv
    exact ⟨place, node, .enters hn hm h⟩
  | finds hn hm => exact ⟨_, _, .finds hn hm⟩
  | keeps hn hk hm => cases hk
  | @follows links at_ name rest link target hn hm hk hw ih =>
    cases rest with
    | nil => exact ⟨_, _, .keeps hn rfl hm⟩
    | cons next rest =>
      obtain ⟨place, node, h⟩ := ih hv
      exact ⟨place, node, .follows hn hm rfl h⟩

end Walks

/-! ## Making folders -/

variable {path : String} {p : Path}

theorem isFolder_iff :
    t.isFolder path = true ↔
      isNameable path = true ∧ ∃ place, t.find path = .ok (.found place .folder) := by
  unfold isFolder
  rw [Bool.and_eq_true, and_congr_right_iff]
  intro _
  split
  · next place h => simp [h]
  · next hne =>
      simp only [Bool.false_eq_true, false_iff, not_exists]
      exact hne

/-- A folder that is made is there. -/
theorem isFolder_of_makeFolder (hp : isNameable path = true) (h : t.makeFolder path = .ok next) :
    next.isFolder path = true := by
  unfold makeFolder at h
  split at h
  · cases h
  · next place hf =>
      cases h
      rw [isFolder_iff]
      refine ⟨hp, place, ?_⟩
      unfold findEntry at hf
      unfold find
      dsimp only at hf ⊢
      split at hf
      · cases hf
      · next he =>
          rw [if_neg he]
          exact walk_of_walks (walks_of_walk hf).put_folder
  · cases h

/-- A folder that is there cannot be made. -/
theorem makeFolder_of_isFolder (h : t.isFolder path = true) :
    t.makeFolder path = .error ⟨.exists, path⟩ := by
  obtain ⟨-, place, hf⟩ := isFolder_iff.1 h
  unfold find at hf
  unfold makeFolder findEntry
  dsimp only at hf ⊢
  split at hf
  · cases hf
  · next he =>
      obtain ⟨_, _, hw⟩ := (walks_of_walk hf).names_entry
      rw [if_neg he, walk_of_walks hw]

theorem isFolder_of_keepFolder {e : FileError} (h : t.keepFolder path e = .ok next) :
    next.isFolder path = true := by
  unfold keepFolder at h
  split at h
  · next hk =>
      cases h
      exact hk.2
  · cases h

/-- A folder is there when it was made, or was there already. -/
theorem isFolder_of_tryCatch (hp : isNameable path = true)
    (h : (t.makeFolder path).tryCatch (t.keepFolder path) = .ok next) :
    next.isFolder path = true := by
  cases hm : t.makeFolder path with
  | ok made =>
    rw [hm] at h
    cases h
    exact isFolder_of_makeFolder hp hm
  | error e =>
    rw [hm] at h
    exact isFolder_of_keepFolder h

theorem keepFolder_of_isFolder (h : t.isFolder path = true) :
    t.keepFolder path ⟨.exists, path⟩ = .ok t := by
  unfold keepFolder
  rw [if_pos ⟨FileProblem.noConfusion, h⟩]

/-- A path from its names from the last one up. -/
def upPath (start : Path.Start) (up : List String) : Path := ⟨start, up.reverse⟩

theorem upPath_reverse (p : Path) : upPath p.start p.names.reverse = p := by
  rw [upPath, List.reverse_reverse]

/-- Where folders were made, a folder is. -/
theorem isFolder_of_makeFolders (hp : isNameable p.text = true) (h : t.makeFolders p = .ok next) :
    next.isFolder p.text = true := by
  unfold makeFolders at h
  rw [← upPath_reverse p] at hp ⊢
  generalize p.start = start, p.names.reverse = up at h hp
  cases up with
  | nil => exact isFolder_of_tryCatch hp h
  | cons name above =>
    rw [makeFoldersUp] at h
    split at h
    · next made hm =>
        cases h
        exact isFolder_of_makeFolder hp hm
    · next e he =>
        split at h
        · cases ha : t.makeFoldersUp start above with
          | error e =>
            rw [ha] at h
            cases h
          | ok up =>
            rw [ha] at h
            exact isFolder_of_tryCatch hp h
        · exact isFolder_of_keepFolder h

/-- A folder that is there is left alone. -/
theorem makeFolders_of_isFolder (h : t.isFolder p.text = true) : t.makeFolders p = .ok t := by
  unfold makeFolders
  rw [← upPath_reverse p] at h
  generalize p.start = start, p.names.reverse = up at h
  have hmake := makeFolder_of_isFolder h
  have hkeep := keepFolder_of_isFolder h
  cases up with
  | nil =>
    rw [upPath, List.reverse_nil] at hmake hkeep
    rw [makeFoldersUp, hmake]
    exact hkeep
  | cons name above =>
    rw [upPath] at hmake hkeep
    simp only [makeFoldersUp, hmake, reduceCtorEq, if_false]
    exact hkeep

end Greenlight.FileTree
