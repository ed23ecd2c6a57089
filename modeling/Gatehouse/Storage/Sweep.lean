import Gatehouse.Time.Instant

/-! # Sweeps

Expired entries of a store are swept out now and then, in the course of other operations: at the
first one, and after that whenever an interval has passed since the last sweep.
-/

namespace Gatehouse

structure Sweep where
  interval : Duration := .ofSeconds 60
  /-- The instant from which on the next sweep is due, once there has been one. -/
  next : Option Instant := none
  deriving DecidableEq

namespace Sweep

def isDue (s : Sweep) (now : Instant) : Bool :=
  s.next.all (· ≤ now)

def done (s : Sweep) (now : Instant) : Sweep :=
  { s with next := some (now + s.interval) }

end Sweep

end Gatehouse
