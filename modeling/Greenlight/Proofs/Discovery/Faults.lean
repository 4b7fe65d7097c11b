import Greenlight.Proofs.Gate.Reported
import Greenlight.Proofs.Toml.Faults

/-! # Faults of discovery

A manifest or a folder that cannot be read is reported, and so is a policy that does not fit its crate. A
root with a name that is too long and an example with a path that is no text are not. -/

namespace Greenlight.Discovery

/-! ## The manifest -/

/-- An entry of the manifest for an example, with a path that is set but is no text. -/
def HasStrayPath (entry : Toml.Value) : Prop :=
  ∃ table path, entry = .table table ∧ Entries.get? table "path" = some path ∧ path.holds = true ∧
    ∀ s, path ≠ .datum (.text s)

/-- What discovery stumbles over, with the fault that comes of it. -/
inductive Misfit (t : FileTree) (root : Path) : Fault → Prop where
  /-- A name on the way to the root that is too long for any folder. -/
  | rootName (h : t.find root.text = .error .nameTooLong) :
      Misfit t root (.file ⟨.nameTooLong, root.text⟩)
  /-- An example with a path that is no text. -/
  | examplePath {manifest entries entry} (hm : readManifest t root = .ok manifest)
      (he : Entries.get? manifest "example" = some (.list entries)) (hentry : entry ∈ entries)
      (hp : HasStrayPath entry) : Misfit t root .pathNotText

theorem Misfit.not_isReported {t : FileTree} {root : Path} {fault : Fault} (h : Misfit t root fault) :
    ¬fault.IsReported := by
  cases h <;> exact Bool.false_ne_true

/-- A policy on combinations is refused by discovery only. -/
theorem featureSets_failsOnly_discovery (known : List String) (policy : FeaturePolicy) :
    FailsOnly (·.category = .discovery) (featureSets known policy) := by
  unfold featureSets
  dsimp only
  split
  · refine FailsOnly.bind (.error ?_) nofun
    rfl
  · refine (FailsOnly.forM fun flags _ => ?_).bind fun _ _ => .ok _
    unfold checkCandidate
    dsimp only
    split
    · exact .error rfl
    · split
      · exact .error rfl
      · exact .ok _

end Greenlight.Discovery
