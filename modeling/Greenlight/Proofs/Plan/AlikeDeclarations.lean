import Greenlight.Proofs.Plan.DeclaredParts
import Greenlight.Proofs.Settings.AlikeOptions

/-! # Reading declarations that are alike

Declarations of checks are read alike from values that are alike: they give the same check, or are refused
with the same fault. -/

namespace Greenlight.FixedCheck

variable {t : Toolchain} {index : Nat} {name key : String} {given other value : Value}
  {values others : List Value} {entries found : List (Datum × Value)}

/-! ## Parts -/

theorem valueUnder_alike
    (h : Option.Rel Value.Alike (Value.lookup entries key) (Value.lookup found key)) (absent : Value) :
    (valueUnder entries key absent).Alike (valueUnder found key absent) :=
  Settings.getD_alike h absent

theorem mapM_text?_alike {items rest : List Value} (h : List.Forall₂ Value.Alike items rest) :
    items.mapM Value.text? = rest.mapM Value.text? := by
  induction h with
  | nil => rfl
  | cons hi _ ih => rw [List.mapM_cons, List.mapM_cons, hi.text?_eq, ih]

theorem readCommand_alike (h : given.Alike other) :
    readCommand t name given = readCommand t name other := by
  have hi := h.items?
  unfold readCommand
  rw [h.text?_eq]
  generalize given.items? = i, other.items? = j at hi ⊢
  cases hi with
  | none => rfl
  | some hitems => simp only [Option.bind_some, mapM_text?_alike hitems]

theorem textUnder_alike
    (h : Option.Rel Value.Alike (Value.lookup entries key) (Value.lookup found key)) (absent : String) :
    textUnder entries key absent = textUnder found key absent :=
  (valueUnder_alike h (.text absent)).written_eq

theorem readSeverity_alike
    (h : Option.Rel Value.Alike (Value.lookup entries "class") (Value.lookup found "class")) :
    readSeverity name entries = readSeverity name found := by
  unfold readSeverity
  rw [textUnder_alike h, (Settings.getD_alike h .null).refuse_eq]

theorem readStage_alike
    (h : Option.Rel Value.Alike (Value.lookup entries "stage") (Value.lookup found "stage")) :
    readStage name entries = readStage name found := by
  unfold readStage
  rw [textUnder_alike h, (Settings.getD_alike h (.text name)).refuse_eq]

theorem readEnvironment_alike
    (h : Option.Rel Value.Alike (Value.lookup entries "env") (Value.lookup found "env")) :
    readEnvironment name entries = readEnvironment name found := by
  have halike := Settings.getD_alike h .null
  have hc := halike.content
  unfold readEnvironment
  dsimp only
  rw [halike.holds_eq]
  generalize ((Value.lookup entries "env").getD .null).content = a,
    ((Value.lookup found "env").getD .null).content = b at hc ⊢
  cases hc with
  | map hentries =>
    refine foldlM_congr_forall₂ ?_ hentries []
    rintro start ⟨key, item⟩ ⟨key', item'⟩ ⟨hkey, hitem⟩
    dsimp only
    rw [Settings.written_ofDatum_alike hkey, hitem.written_eq]
  | datum | pair | list | set => rfl

/-! ## Declarations -/

theorem read_alike (h : value.Alike other) : read t index value = read t index other := by
  have hc := h.content
  unfold read
  generalize value.content = a, other.content = b at hc ⊢
  cases hc with
  | @map entries found hentries =>
    have hlookup := Value.lookup_alike hentries
    have hid : (Value.lookup entries "id").bind Value.text? =
        (Value.lookup found "id").bind Value.text? := by
      have hrel := hlookup "id"
      generalize Value.lookup entries "id" = a, Value.lookup found "id" = b at hrel ⊢
      cases hrel with
      | none => rfl
      | some hv => exact hv.text?_eq
    simp only [hid, readCommand_alike (Settings.getD_alike (hlookup "command") .null),
      readSeverity_alike (hlookup "class"), readStage_alike (hlookup "stage"),
      readEnvironment_alike (hlookup "env"), textUnder_alike (hlookup "description")]
  | datum | pair | list | set => rfl

theorem readFrom_alike (h : List.Forall₂ Value.Alike values others) (index : Nat) :
    readFrom t index values = readFrom t index others := by
  induction h generalizing index with
  | nil => rfl
  | cons hv _ ih => rw [readFrom, readFrom, read_alike hv, ih]

end Greenlight.FixedCheck
