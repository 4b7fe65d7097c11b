import Greenlight.Proofs.Value.Alike
import Greenlight.Settings

/-! # Reading values that are alike

Options are read alike from values that are alike: what is read is the same, or it is refused with the same
fault. -/

namespace Greenlight.Settings

open Text

variable {v w : Value}

/-! ## Lists of names and sets of flags -/

theorem mapM_written_alike {items others : List Value} (h : List.Forall₂ Value.Alike items others) :
    items.mapM Value.written = others.mapM Value.written :=
  mapM_congr_forall₂ (fun _ _ hi => hi.written_eq) h

theorem written_ofDatum_alike {d e : Datum} (h : d.Alike e) :
    (Value.ofDatum d).written = (Value.ofDatum e).written :=
  congrArg (Except.mapError Fault.number) h.toText_eq

theorem readNames_alike (h : v.Alike w) : readNames v = readNames w := by
  have hc := h.content
  have hi := h.items?
  unfold readNames
  rw [h.refuse_eq]
  generalize v.content = a, w.content = b, v.items? = i, w.items? = j at hc hi ⊢
  cases hi with
  | none => rcases hc with ⟨_ | _⟩ | _ | _ | _ | _ <;> rfl
  | some hitems =>
    simp only [mapM_written_alike hitems]
    rcases hc with ⟨_ | _⟩ | _ | _ | _ | _ <;> rfl

theorem readFlagSet_alike (h : v.Alike w) : readFlagSet v = readFlagSet w := by
  have hc := h.content
  have hi := h.items?
  unfold readFlagSet
  rw [h.refuse_eq]
  generalize v.content = a, w.content = b, v.items? = i, w.items? = j at hc hi ⊢
  have hset {members others : List Datum} (hm : List.Forall₂ Datum.Alike members others) :=
    mapM_congr_forall₂ (fun _ _ hd => written_ofDatum_alike hd) hm
  cases hi with
  | none =>
    rcases hc with ⟨_ | _⟩ | _ | _ | hmembers | _
    case set => exact congrArg (Except.map flagSetOfTexts) (hset hmembers)
    all_goals rfl
  | some hitems =>
    simp only [mapM_written_alike hitems]
    rcases hc with ⟨_ | _⟩ | _ | _ | hmembers | _
    case set => exact congrArg (Except.map flagSetOfTexts) (hset hmembers)
    all_goals rfl

theorem mapM_readFlagSet_alike {items others : List Value}
    (h : List.Forall₂ Value.Alike items others) :
    items.mapM readFlagSet = others.mapM readFlagSet :=
  mapM_congr_forall₂ (fun _ _ hi => readFlagSet_alike hi) h

theorem readFlagSets_alike (h : v.Alike w) : readFlagSets v = readFlagSets w := by
  have hc := h.content
  have hi := h.items?
  unfold readFlagSets
  rw [h.refuse_eq]
  generalize v.content = a, w.content = b, v.items? = i, w.items? = j at hc hi ⊢
  cases hi with
  | none => rcases hc with ⟨_ | _⟩ | _ | _ | _ | _ <;> rfl
  | some hitems =>
    simp only [mapM_readFlagSet_alike hitems]
    rcases hc with ⟨_ | _⟩ | _ | _ | _ | _ <;> rfl

theorem readGroups_alike (h : v.Alike w) : readGroups v = readGroups w := by
  have hi := h.items?
  unfold readGroups
  rw [h.refuse_eq, h.text?_eq]
  generalize v.items? = i, w.items? = j at hi ⊢
  cases hi with
  | none => rfl
  | some hitems => simp only [mapM_readFlagSet_alike hitems]

/-! ## Truth values -/

theorem readBool_alike (option : String) (h : v.Alike w) : readBool option v = readBool option w := by
  have hc := h.content
  unfold readBool
  rw [h.written_eq, h.refuse_eq]
  generalize v.content = a, w.content = b at hc ⊢
  rcases hc with ⟨_ | _⟩ | _ | _ | _ | _ <;> rfl

theorem getD_alike {found other : Option Value} (h : Option.Rel Value.Alike found other)
    (default : Value) : (found.getD default).Alike (other.getD default) := by
  cases h with
  | none => exact .refl default
  | some h => exact h

theorem readInclusion_alike {found other : Option Value} (h : Option.Rel Value.Alike found other)
    (excluded : List String) : readInclusion found excluded = readInclusion other excluded := by
  have hc := (getD_alike h .null).content
  unfold readInclusion
  generalize (found.getD .null).content = a, (other.getD .null).content = b at hc ⊢
  rcases hc with ⟨_ | _⟩ | _ | _ | _ | hentries
  case map =>
    refine congrArg (· >>= _) (foldlM_congr_forall₂ ?_ hentries [])
    rintro given ⟨flag, included⟩ ⟨flag', included'⟩ ⟨hflag, hincluded⟩
    dsimp only
    rw [readBool_alike _ hincluded, written_ofDatum_alike hflag]
  all_goals rfl

/-! ## Time limits of stages -/

theorem readLimit_alike (stage : String) (h : v.Alike w) : readLimit stage v = readLimit stage w := by
  unfold readLimit
  rw [h.toFloat_eq, h.refuse_eq]

/-- Reads the limits of stages one by one; the names are in lower case. -/
def putLimits (limits : List (String × Value)) : Except Fault (List (String × Float)) :=
  limits.foldlM (fun found (stage, raw) => do
    return Entries.put (lower stage) (← readLimit stage raw) found) []

theorem putLimits_alike {limits others : List (String × Value)}
    (h : List.Forall₂ (fun l o => l.1 = o.1 ∧ l.2.Alike o.2) limits others) :
    putLimits limits = putLimits others := by
  refine foldlM_congr_forall₂ ?_ h []
  rintro found ⟨stage, raw⟩ ⟨_, raw'⟩ ⟨rfl, hraw⟩
  dsimp only
  rw [readLimit_alike stage hraw]

theorem readLimits_alike (h : v.Alike w) : readLimits v = readLimits w := by
  have hc := h.content
  unfold readLimits
  rw [h.refuse_eq]
  generalize v.content = a, w.content = b at hc ⊢
  rcases hc with ⟨_ | _⟩ | _ | _ | _ | hentries
  case map =>
    refine Agrees.bind_eq (.mapM ?_ hentries) fun _ _ => putLimits_alike
    rintro ⟨key, raw⟩ ⟨key', raw'⟩ ⟨hkey, hraw⟩
    dsimp only
    rw [written_ofDatum_alike hkey]
    exact .bind_left fun stage => .ok ⟨rfl, hraw⟩
  all_goals rfl

/-! ## Commands, paths and numbers -/

theorem readCommand_alike (h : v.Alike w) : readCommand v = readCommand w := by
  have hi := h.items?
  unfold readCommand
  rw [h.refuse_eq, h.text?_eq]
  generalize v.items? = i, w.items? = j at hi ⊢
  cases hi with
  | none => rfl
  | some hitems => simp only [mapM_written_alike hitems]

theorem readPath_alike (h : v.Alike w) : readPath v = readPath w := by
  rw [readPath, readPath, h.text?_eq]

theorem readSeconds_alike (h : v.Alike w) : readSeconds v = readSeconds w := by
  rw [readSeconds, readSeconds, h.toFloat_eq]

theorem readCount_alike (h : v.Alike w) : readCount v = readCount w := by
  rw [readCount, readCount, h.toInt_eq]

theorem readPackage_alike (h : v.Alike w) :
    Option.Rel Value.Alike (readPackage v) (readPackage w) := by
  unfold readPackage
  rw [h.holds_eq]
  split
  · exact .some h
  · exact .none

/-! ## Declarations of checks -/

theorem readChecks_agrees {entries others : List (Datum × Value)}
    (h : Option.Rel Value.Alike (Value.lookup entries "static_tasks")
      (Value.lookup others "static_tasks")) :
    Agrees (Option.Rel (List.Forall₂ Value.Alike)) (readChecks entries) (readChecks others) := by
  have hc := (getD_alike h .null).content
  unfold readChecks
  generalize ((Value.lookup entries "static_tasks").getD .null).content = a,
    ((Value.lookup others "static_tasks").getD .null).content = b at hc ⊢
  cases hc with
  | @datum d _ hd =>
    cases hd with
    | undefined => exact .error _
    | same =>
      cases d with
      | null => exact .ok .none
      | _ => exact .error _
  | list hitems => exact .ok (.some hitems)
  | pair | set | map => exact .error _

end Greenlight.Settings
