import BacklinkPublisher.CircuitBreaker
import Mathlib.Data.Fintype.EquivFin

set_option autoImplicit false

/-!
# Corrupt circuit files

What the breaker does with a state file that is not an object of objects. It fails
closed only as long as the read error is one that no writer recovers from.
-/
namespace BacklinkPublisher.CircuitCorruption
open CircuitBreaker

section Files
variable {platform : String} {host : Host} {calls : List Call}

end Files

end BacklinkPublisher.CircuitCorruption
