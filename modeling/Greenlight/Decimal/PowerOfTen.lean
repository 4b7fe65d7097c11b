/-! # Powers of ten

The steps from one decimal grid to the next. -/

namespace Greenlight.Decimal

/-- The number that is written as a one and so many zeros. -/
def tenTo (zeros : Nat) : Nat := Nat.pow 10 zeros

end Greenlight.Decimal
