import Greenlight.Proofs.FileTree.Folders

/-! # Contents that are written

Main statements: a path that leads to a file, or to a place for one, can be written to; the file holds what is
written, whether it was there before or not. -/

namespace Greenlight.FileTree

variable {t next : FileTree} {links : Nat} {at_ place : Position} {names : List String} {path : String}
  {content : List UInt8}

/-- A place for a file: nothing or a file is there. -/
def Takes (t : FileTree) (place : Position) : Prop :=
  ∀ node, t.node? place = some node → ∃ content executable, node = .file content executable

theorem Takes.node?_put_self (h : t.Takes place) (node : Node) :
    (t.put place node).node? place = some node := by
  refine FileTree.node?_put_self (fun hfolder => ?_) node
  obtain ⟨_, _, hnode⟩ := h _ hfolder
  cases hnode

/-- What is no file stays where it is when a file is put. -/
theorem Takes.node?_put (h : t.Takes place) {other : Position} {node : Node}
    (hm : t.node? other = some node) (hn : ∀ content executable, node ≠ .file content executable)
    (put : Node) : (t.put place put).node? other = some node := by
  have hne : other ≠ place := by
    rintro rfl
    obtain ⟨content, executable, hnode⟩ := h _ hm
    exact hn content executable hnode
  rwa [node?_put_of_ne hne]

namespace Walks

/-- Where names lead to a file, it is. -/
theorem node?_eq_file {executable : Bool}
    (h : Walks t false links at_ names (.found place (.file content executable))) :
    t.node? place = some (.file content executable) := by
  generalize hv : Target.found place (.file content executable) = target at h
  induction h with
  | ends | vacant | keeps => cases hv
  | finds hn hm =>
    cases hv
    exact hm
  | stays _ _ ih | rises _ ih | enters _ _ _ ih | follows _ _ _ _ ih => exact ih hv

theorem takes_of_vacant (h : Walks t false links at_ names (.vacant place)) : t.Takes place := by
  intro node hm
  rw [h.node?_eq_none] at hm
  cases hm

theorem takes_of_file {executable : Bool}
    (h : Walks t false links at_ names (.found place (.file content executable))) : t.Takes place := by
  intro node hm
  rw [h.node?_eq_file] at hm
  exact ⟨content, executable, (Option.some.inj hm).symm⟩

/-- Names that led to a file or to nothing lead to the file that is put there. -/
theorem put_file {target : Target} (h : Walks t false links at_ names target)
    (ht : target = .vacant place ∨ ∃ old executable, target = .found place (.file old executable))
    (hplace : t.Takes place) (executable : Bool) :
    Walks (t.put place (.file content executable)) false links at_ names
      (.found place (.file content executable)) := by
  induction h with
  | ends =>
    rcases ht with ht | ⟨_, _, ht⟩ <;> cases ht
  | keeps _ hk => cases hk
  | stays hn _ ih => exact .stays hn (ih ht)
  | rises _ ih => exact .rises (ih ht)
  | vacant hn =>
    rcases ht with ht | ⟨_, _, ht⟩
    · cases ht
      exact .finds hn (hplace.node?_put_self _)
    · cases ht
  | enters hn hm _ ih => exact .enters hn (hplace.node?_put hm nofun _) (ih ht)
  | finds hn =>
    rcases ht with ht | ⟨_, _, ht⟩
    · cases ht
    · cases ht
      exact .finds hn (hplace.node?_put_self _)
  | follows hn hm hk _ ih => exact .follows hn (hplace.node?_put hm nofun _) hk (ih ht)

end Walks

theorem walks_of_find {target : Target} (h : t.find path = .ok target) :
    path.isEmpty = false ∧
      Walks t false maxLinks (t.origin path).1 (t.origin path).2 target := by
  unfold find at h
  dsimp only at h
  split at h
  · cases h
  · next hpath => exact ⟨Bool.not_eq_true _ ▸ hpath, walks_of_walk h⟩

theorem find_of_walks {target : Target} (hpath : path.isEmpty = false)
    (h : Walks t false maxLinks (t.origin path).1 (t.origin path).2 target) :
    t.find path = .ok target := by
  unfold find
  dsimp only
  rw [hpath, if_neg Bool.false_ne_true]
  exact walk_of_walks h

/-- A file holds what is written to it. -/
theorem content_of_write (h : t.write path content = .ok next) : next.content path = .ok content := by
  have hread {place : Position} {executable : Bool}
      (hf : next.find path = .ok (.found place (.file content executable))) :
      next.content path = .ok content := by
    unfold FileTree.content
    rw [hf]
  unfold write update at h
  split at h
  · next place old executable hf =>
      cases h
      obtain ⟨hpath, hwalks⟩ := walks_of_find hf
      exact hread (find_of_walks hpath
        (hwalks.put_file (.inr ⟨old, executable, rfl⟩) hwalks.takes_of_file executable))
  · cases h
  · next place hf =>
      cases h
      obtain ⟨hpath, hwalks⟩ := walks_of_find hf
      exact hread (find_of_walks hpath (hwalks.put_file (.inl rfl) hwalks.takes_of_vacant false))
  · cases h

/-- The path leads to a file, or to nothing in a folder that is there. -/
def takesFile (t : FileTree) (path : String) : Bool :=
  match t.find path with
  | .ok (.vacant _) | .ok (.found _ (.file _ _)) => true
  | _ => false

theorem exists_write_iff (content : List UInt8) :
    (∃ next, t.write path content = .ok next) ↔ t.takesFile path = true := by
  unfold write update takesFile
  cases t.find path with
  | error problem => simp
  | ok target =>
    cases target with
    | vacant place => simp
    | found place node => cases node <;> simp

end Greenlight.FileTree
