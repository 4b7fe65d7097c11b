import Greenlight.Gate
import Greenlight.Proofs.Value.Numbers

/-! # Reported faults

The gate reports the faults of the setup that it expects: bad values, and errors of discovery and of the
plan. -/

namespace Greenlight

/-- The gate reports a fault of this kind when it happens in the setup. -/
def Fault.IsReported (fault : Fault) : Prop := (Gate.title? fault.category).isSome = true

namespace Fault

/-- A number is let through when the value is of a kind that no number can be read from, or out of
range. -/
theorem isReported_number_iff {e : NumberError} :
    (number e).IsReported ↔ e ≠ .wrongType ∧ e ≠ .beyondFloat ∧ e ≠ .infiniteToInt := by
  cases e <;> simp [IsReported, category, numberCategory, Gate.title?]

end Fault

namespace Value

end Value

end Greenlight
