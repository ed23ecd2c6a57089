import Gatehouse.Error
import Gatehouse.Replay.Register

/-! # Replay caches

What the policies of a deployment share to recognise replayed messages: a register in memory, or a
service out of reach, which answers every call with the same error.
-/

namespace Gatehouse

inductive ReplayCache where
  | memory (register : ReplayRegister)
  | unavailable (reason : StorageError)

namespace ReplayCache

def size : ReplayCache → Nat
  | memory register => register.size
  | unavailable _ => 0

/-- Records an identifier. Returns whether it was new. -/
def check (c : ReplayCache) (now : Instant) (key : ReplayKey) (expires : Instant) :
    Except StorageError Bool × ReplayCache :=
  match c with
  | memory register => (register.check now key expires).map .ok memory
  | unavailable reason => (.error reason, c)

/-- Drops the expired identifiers of a register in memory and returns their number. -/
def purge (c : ReplayCache) (now : Instant) : Nat × ReplayCache :=
  match c with
  | memory register => (register.purge now).map id memory
  | unavailable _ => (0, c)

end ReplayCache

end Gatehouse
