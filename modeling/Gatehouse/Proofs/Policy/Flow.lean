import Gatehouse.Proofs.Policy.Rules
import Gatehouse.Proofs.Replay.Calls
import Gatehouse.Proofs.Replay.Visits

/-! # The flow rule

The flow rule on a register in memory ends in one of four ways: the message is not fresh, nothing is
checked for replay, the identifier is held already, or it is put down. In the last way only does the
register come to hold anything that it did not hold before.
-/

namespace Gatehouse.Evaluation

open ReplayRegister

/-- Until when the identifier of a message is kept by a rule that accepts it. -/
def keptUntil (s : MessageFlowSettings) (around : Surroundings) (p : Policy) : Instant :=
  p.findings.issued.getD (p.time around.now) + p.clockSkew + window s p

/-- The identifier of the message, if it has one that can be checked. -/
def checkedId? (p : Policy) : Option String :=
  p.findings.messageId.filter (!·.isEmpty)

/-- How the flow rule may end on a register in memory. -/
inductive FlowOutcome (s : MessageFlowSettings) (around : Surroundings) (e : Evaluation)
    (r : ReplayRegister) : Except Error Bool → Option ReplayCache → Prop where
  | stale (fault : Error) (stale : checkFresh s e.policy (e.policy.time around.now) = .error fault) :
      FlowOutcome s around e r (.error fault) (some (.memory r))
  | unchecked (fresh : checkFresh s e.policy (e.policy.time around.now) = .ok ())
      (unchecked : s.checkReplay = true → checkedId? e.policy = none) :
      FlowOutcome s around e r (.ok false) (some (.memory r))
  | replayed (id : String) (fresh : checkFresh s e.policy (e.policy.time around.now) = .ok ())
      (checks : s.checkReplay = true) (named : checkedId? e.policy = some id)
      (held : r.holds around.cacheNow ⟨s.replayContext, id⟩ = true) :
      FlowOutcome s around e r (.error (.replayDetected id)) (some (.memory
        (r.check around.cacheNow ⟨s.replayContext, id⟩ (keptUntil s around e.policy)).2))
  | recorded (id : String) (fresh : checkFresh s e.policy (e.policy.time around.now) = .ok ())
      (checks : s.checkReplay = true) (named : checkedId? e.policy = some id)
      (free : r.holds around.cacheNow ⟨s.replayContext, id⟩ = false) :
      FlowOutcome s around e r (.ok true) (some (.memory
        (r.check around.cacheNow ⟨s.replayContext, id⟩ (keptUntil s around e.policy)).2))

variable {around : Surroundings} {e : Evaluation} {r : ReplayRegister} {s : MessageFlowSettings}
  {p : Policy} {id : String}

theorem checkedId?_eq_some : checkedId? p = some id ↔ p.findings.messageId = some id ∧ id ≠ "" := by
  simp [checkedId?, Option.filter_eq_some_iff]

/-- The time that the rule fixes matters to nothing that it reads afterwards. -/
theorem checkFlow_eq (s : MessageFlowSettings) (around : Surroundings) (e : Evaluation) :
    e.checkFlow s around =
      let timed := e.withPolicy (e.policy.withTime (e.policy.time around.now))
      match checkFresh s e.policy (e.policy.time around.now) with
      | .error fault => (.error fault, timed)
      | .ok () =>
        match checkedId? e.policy with
        | none => (.ok false, timed)
        | some id =>
          if s.checkReplay then recordId s around id (keptUntil s around e.policy) timed
          else (.ok false, timed) :=
  rfl

theorem checkFlow_outcome (s : MessageFlowSettings) (around : Surroundings)
    (memory : e.replays = some (.memory r)) :
    FlowOutcome s around e r (e.checkFlow s around).1 (e.checkFlow s around).2.replays := by
  have timed : (e.withPolicy (e.policy.withTime (e.policy.time around.now))).replays =
      some (.memory r) := memory
  rw [checkFlow_eq]
  cases fresh : checkFresh s e.policy (e.policy.time around.now) with
  | error fault =>
      simp only [timed]
      exact .stale fault fresh
  | ok _ =>
      cases named : checkedId? e.policy with
      | none =>
          simp only [timed]
          exact .unchecked fresh fun _ => named
      | some id =>
          by_cases checks : s.checkReplay = true
          · simp only [checks, if_true, recordId_memory s around id _ timed, check_eq]
            cases held : r.holds around.cacheNow ⟨s.replayContext, id⟩ with
            | true => exact .replayed id fresh checks named held
            | false => exact .recorded id fresh checks named held
          · simp only [checks, if_false, Bool.false_eq_true, timed]
            exact .unchecked fresh fun checked => absurd checked checks

/-- The flow rule answers where the message is fresh and its identifier not held. -/
theorem checkFlow_answers_iff (memory : e.replays = some (.memory r))
    (checks : s.checkReplay = true) :
    (∃ applied, (e.checkFlow s around).1 = .ok applied) ↔
      checkFresh s e.policy (e.policy.time around.now) = .ok () ∧
        ∀ id, checkedId? e.policy = some id →
          r.holds around.cacheNow ⟨s.replayContext, id⟩ = false := by
  have outcome := checkFlow_outcome s around memory
  generalize (e.checkFlow s around).1 = answer at outcome
  generalize (e.checkFlow s around).2.replays = replays at outcome
  cases outcome with
  | stale fault stale => simp [stale]
  | unchecked fresh unchecked => simp [fresh, unchecked checks]
  | replayed id fresh _ named held => simp [fresh, named, held]
  | recorded id fresh _ named free => simp [fresh, named, free]

end Gatehouse.Evaluation
