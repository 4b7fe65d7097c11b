import Greenlight.FileTree
import Greenlight.Toml.Error

/-! # What can go wrong in discovery -/

namespace Greenlight

/-- Why the crate or the policy on its features cannot be read. -/
inductive DiscoveryError where
  | rootNoFolder (root : Path)
  | rootUnreadable (root : Path) (cause : FileError)
  | manifestUnreadable (manifest : Path) (cause : FileError)
  | examplesUnreadable (folder : Path) (cause : FileError)
  | manifestMalformed (manifest : Path) (cause : Toml.FormError)
  | featuresNoTable (manifest : Path)
  | examplesNoArray (manifest : Path)
  | exampleNameless (root : Path)
  | policyFlagsUnknown (flags : List String)
  | flagsUnknown (flags : List String)
  | flagsExclusive (flags : List String)
deriving DecidableEq, Repr

/-- The cause in words. -/
def DiscoveryError.message : DiscoveryError → String
  | .rootNoFolder root => s!"Source root is not a readable directory: {root.text}"
  | .rootUnreadable root cause => s!"Cannot read source root {root.text}: {cause.message}"
  | .manifestUnreadable manifest cause => s!"Cannot read {manifest.text}: {cause.message}"
  | .examplesUnreadable folder cause =>
    s!"Cannot read examples directory {folder.text}: {cause.message}"
  | .manifestMalformed manifest cause => s!"Invalid TOML in {manifest.text}: {cause.message}"
  | .featuresNoTable manifest => s!"[features] in {manifest.text} is not a table."
  | .examplesNoArray manifest => s!"[[example]] in {manifest.text} is not an array."
  | .exampleNameless root => s!"[[example]] entry without a name in {root.text}."
  | .policyFlagsUnknown flags =>
    "Feature policy references unknown flag(s): " ++ Text.join ", " flags
  | .flagsUnknown flags => "Feature set uses unknown flag(s): " ++ Text.join ", " flags
  | .flagsExclusive flags =>
    "Feature set combines mutually exclusive flags: " ++ Text.join ", " flags

end Greenlight
