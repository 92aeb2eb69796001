import TenantLink.Time.Span

/-!
# Waiting before another attempt

The wait doubles with each attempt, up to the tenth doubling, and never leaves 64 bits.
-/

namespace TenantLink.Backoff

def maxDoublings : Nat := 10

/-- The longest wait in milliseconds, `2 ^ 64 - 1`. -/
def maxDelay : Nat := 0xFFFFFFFFFFFFFFFF

/-- The wait behind an attempt, of which the first is number 0, in milliseconds. -/
def delay (attempt unit : Nat) : Nat := min (unit * Nat.pow 2 (min attempt maxDoublings)) maxDelay

end TenantLink.Backoff
