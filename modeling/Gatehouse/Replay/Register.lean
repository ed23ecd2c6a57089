import Gatehouse.Data.Table
import Gatehouse.Storage.Sweep

/-! # Replay registers

The identifiers that have been seen, each in a context and with the instant until which a second
sighting counts as a replay.
-/

namespace Gatehouse

/-- An identifier and the context that it belongs to. -/
structure ReplayKey where
  context : String
  value : String
  deriving DecidableEq

structure ReplayRegister where
  seen : Table ReplayKey Instant
  sweep : Sweep

namespace ReplayRegister

def empty (sweep : Sweep) : ReplayRegister :=
  ⟨.empty, sweep⟩

/-- The number of identifiers held, expired ones included. -/
def size (r : ReplayRegister) : Nat :=
  r.seen.size

def unexpired (r : ReplayRegister) (now : Instant) : Table ReplayKey Instant :=
  r.seen.filter fun _ expires => now < expires

/-- Drops the expired identifiers if a sweep is due. -/
def swept (r : ReplayRegister) (now : Instant) : ReplayRegister :=
  if r.sweep.isDue now then ⟨r.unexpired now, r.sweep.done now⟩ else r

/-- Whether an identifier has been seen and has not expired. -/
def holds (r : ReplayRegister) (now : Instant) (key : ReplayKey) : Bool :=
  (r.seen.get? key).any (now < ·)

/-- Records an identifier until it expires. Returns false, and records nothing, if the identifier is
held already. -/
def check (r : ReplayRegister) (now : Instant) (key : ReplayKey) (expires : Instant) :
    Bool × ReplayRegister :=
  let r := r.swept now
  if r.holds now key then (false, r) else (true, { r with seen := r.seen.insert key expires })

/-- Drops the expired identifiers and returns their number. -/
def purge (r : ReplayRegister) (now : Instant) : Nat × ReplayRegister :=
  let seen := r.unexpired now
  (r.seen.size - seen.size, { r with seen := seen })

end ReplayRegister

end Gatehouse
