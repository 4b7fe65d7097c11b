import Greenlight.Proofs.Gate.Reported

/-! # Faults of the plan

Whatever is wrong with declared checks and with the queue that they belong to is reported. -/

namespace Greenlight

namespace FixedCheck

end FixedCheck

end Greenlight
