import Greenlight.Fault
import Greenlight.Toml

/-! # The manifest of a crate

What the file `Cargo.toml` below the root of a crate says about its features and examples. A crate
without a manifest has the empty one. -/

namespace Greenlight.Discovery

/-- The root of a crate must be a folder that can be read. -/
def checkRoot (t : FileTree) (root : Path) : Except Fault Unit :=
  if t.isFolder root.text then
    match t.listing root.text with
    | .ok _ => .ok ()
    | .error e => .error (.discovery (.rootUnreadable root e))
  else
    match FileTree.isNameable root.text, t.find root.text with
    | true, .error .nameTooLong => .error (.file ⟨.nameTooLong, root.text⟩)
    | _, _ => .error (.discovery (.rootNoFolder root))

/-- The manifest of the crate below a root. -/
def manifestPath (root : Path) : Path := root.child "Cargo.toml"

/-- Reads the manifest. -/
def readManifest (t : FileTree) (root : Path) : Except Fault Toml.Table := do
  let path := manifestPath root
  if !t.isFile path.text then return []
  let bytes ← (t.read path.text).mapError fun e => .discovery (.manifestUnreadable path e)
  let cs ← (Text.decode bytes).mapError .encoding
  match Toml.read cs with
  | .ok table => return table
  | .error (.form cause) => throw (.discovery (.manifestMalformed path cause))
  | .error (.number e) => throw (.number e)

/-- The feature flags that a manifest declares, sorted; the default feature is none of them. -/
def declaredFlags (root : Path) (manifest : Toml.Table) : Except Fault (List String) :=
  match (Entries.get? manifest "features").getD (.table []) with
  | .table features => .ok (Text.sort ((features.map (·.1)).filter (· != "default")))
  | _ => .error (.discovery (.featuresNoTable (manifestPath root)))

/-- The feature flags of the crate below a root. -/
def featureFlags (t : FileTree) (root : Path) : Except Fault (List String) := do
  checkRoot t root
  declaredFlags root (← readManifest t root)

end Greenlight.Discovery
