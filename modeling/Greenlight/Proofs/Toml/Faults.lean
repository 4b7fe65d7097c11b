import Greenlight.Toml
import Greenlight.Proofs.Failing

/-! # What the reading of TOML fails with

A text that is no document has a defect of form, or holds a whole number of too many digits. -/

namespace Greenlight.Toml

end Greenlight.Toml
