import Gatehouse.Policy.Evaluation
import Gatehouse.Proofs.Time.Seconds

/-! # The freshness test

The flow rule compares the issue instant of a message with two bounds: the skew after now, and skew
and window before now. No issue instant lies beyond both, and both move outwards with a wider skew
or window.
-/

namespace Gatehouse.Evaluation

/-- Whether the message was issued later than the skew allows. -/
def FromFuture (p : Policy) (now : Instant) : Prop :=
  ∃ issued, p.findings.issued = some issued ∧ now + p.clockSkew < issued

/-- Whether the message was issued earlier than skew and window allow. -/
def Outdated (s : MessageFlowSettings) (p : Policy) (now : Instant) : Prop :=
  ∃ issued, p.findings.issued = some issued ∧ issued < now - p.clockSkew - window s p

/-- Whether settings allow for as much as others do, about one message. -/
structure Wider (s : MessageFlowSettings) (p : Policy) (wide : MessageFlowSettings) (q : Policy) :
    Prop where
  issued : q.findings.issued = p.findings.issued
  skew : p.security.clockSkewSecs ≤ q.security.clockSkewSecs
  window : s.expiresSecs.getD p.security.clockSkewSecs ≤
    wide.expiresSecs.getD q.security.clockSkewSecs

variable {s wide : MessageFlowSettings} {p q : Policy} {now : Instant}

theorem window_eq (s : MessageFlowSettings) (p : Policy) :
    window s p = .ofSeconds (s.expiresSecs.getD p.security.clockSkewSecs : Nat) := by
  unfold window
  cases s.expiresSecs <;> rfl

/-- Skew and window count together, backwards from now. -/
theorem oldest_eq (s : MessageFlowSettings) (p : Policy) (now : Instant) :
    now - p.clockSkew - window s p = now + Duration.ofSeconds
      (-(p.security.clockSkewSecs + s.expiresSecs.getD p.security.clockSkewSecs : Nat)) := by
  rw [window_eq]
  exact Instant.sub_sub_ofSeconds now _ _

theorem oldest_le_newest (s : MessageFlowSettings) (p : Policy) (now : Instant) :
    now - p.clockSkew - window s p ≤ now + p.clockSkew := by
  rw [oldest_eq]
  exact Instant.add_ofSeconds_mono now (by omega)

theorem not_future_and_outdated : ¬ (FromFuture p now ∧ Outdated s p now) := by
  intro ⟨⟨issued, known, early⟩, issued', known', late⟩
  obtain rfl : issued = issued' := Option.some.inj (known.symm.trans known')
  have before : issued < now + p.clockSkew := Instant.lt_of_lt_of_le late (oldest_le_newest s p now)
  rw [Instant.lt_iff] at early before
  omega

/-- The freshness test has three outcomes, by the bound that the issue instant lies beyond. -/
theorem checkFresh_cases (s : MessageFlowSettings) (p : Policy) (now : Instant) :
    FromFuture p now ∧ ¬ Outdated s p now ∧ checkFresh s p now = .error .issuedInFuture ∨
      ¬ FromFuture p now ∧ Outdated s p now ∧ checkFresh s p now = .error .messageExpired ∨
      ¬ FromFuture p now ∧ ¬ Outdated s p now ∧ checkFresh s p now = .ok () := by
  have apart : ¬ (FromFuture p now ∧ Outdated s p now) := not_future_and_outdated
  unfold checkFresh FromFuture Outdated at *
  cases known : p.findings.issued with
  | none => simp
  | some issued =>
      by_cases early : now + p.clockSkew < issued
      · simp_all
      · by_cases late : issued < now - p.clockSkew - window s p
        · simp [early, late]
        · simp [early, late]

theorem checkFresh_eq_ok_iff :
    checkFresh s p now = .ok () ↔ ¬ FromFuture p now ∧ ¬ Outdated s p now := by
  rcases checkFresh_cases s p now with ⟨early, -, fault⟩ | ⟨-, late, fault⟩ | ⟨past, recent, passes⟩
  · simp [fault, early]
  · simp [fault, late]
  · simp [passes, past, recent]

/-- A message is fresh if its issue lies between the two bounds, or is not known. -/
theorem checkFresh_eq_ok : checkFresh s p now = .ok () ↔
    ∀ issued, p.findings.issued = some issued →
      now - p.clockSkew - window s p ≤ issued ∧ issued ≤ now + p.clockSkew := by
  rw [checkFresh_eq_ok_iff]
  constructor
  · intro ⟨past, recent⟩ issued known
    exact ⟨Instant.not_lt.1 fun late => recent ⟨issued, known, late⟩,
      Instant.not_lt.1 fun early => past ⟨issued, known, early⟩⟩
  · intro between
    constructor
    · intro ⟨issued, known, early⟩
      exact Instant.not_lt.2 (between issued known).2 early
    · intro ⟨issued, known, late⟩
      exact Instant.not_lt.2 (between issued known).1 late

/-- A wider skew or window lets pass what a narrower one does. -/
theorem Wider.fresh (wider : Wider s p wide q) (fresh : checkFresh s p now = .ok ()) :
    checkFresh wide q now = .ok () := by
  rw [checkFresh_eq_ok] at fresh ⊢
  intro issued known
  obtain ⟨recent, past⟩ := fresh issued (wider.issued.symm.trans known)
  rw [oldest_eq] at recent ⊢
  have skew := wider.skew
  have window := wider.window
  constructor
  · exact Instant.le_trans (Instant.add_ofSeconds_mono now (by omega)) recent
  · exact Instant.le_trans past (Instant.add_ofSeconds_mono now (by omega))

end Gatehouse.Evaluation
