import Gatehouse.Policy.Evaluation
import Gatehouse.Proofs.Time.Seconds

/-! # How long an accepted message stays guarded

The flow rule keeps the identifier of an accepted message for the skew and the window after its
issue, and accepts messages that are no older than that. Where policy and cache read one clock, the
two ends meet in one instant: there the identifier is no longer kept, while the message still counts
as fresh. A message issued in a leap second has a longer gap, the rest of an ordinary second.
-/

namespace Gatehouse

/-- What rules that share a replay cache have in common. -/
structure FlowTerms where
  skewSecs : Nat
  windowSecs : Nat
  /-- The context that identifiers are recorded under. -/
  context : String

namespace FlowTerms

def skew (t : FlowTerms) : Duration :=
  .ofSeconds t.skewSecs

def window (t : FlowTerms) : Duration :=
  .ofSeconds t.windowSecs

/-- Whether a message with an issue instant passes the freshness test. One without always does. -/
def Fresh (t : FlowTerms) (issued : Option Instant) (now : Instant) : Prop :=
  ∀ i ∈ issued, ¬ now + t.skew < i ∧ ¬ i < now - t.skew - t.window

/-- The instant on which the identifier of a message lapses that was accepted at a given time. -/
def keptUntil (t : FlowTerms) (issued : Option Instant) (accepted : Instant) : Instant :=
  issued.getD accepted + t.skew + t.window

/-- Whether an accepted message passes the freshness test again after its identifier has lapsed, by
what the policy's clock reads then and what the cache's clock reads. -/
def Unguarded (t : FlowTerms) (issued : Option Instant) (accepted now cacheNow : Instant) : Prop :=
  t.keptUntil issued accepted ≤ cacheNow ∧ t.Fresh issued now

variable (t : FlowTerms) {i now cacheNow accepted : Instant}

theorem unguarded_some_iff : t.Unguarded (some i) accepted now cacheNow ↔
    i + t.skew + t.window ≤ cacheNow ∧ i ≤ now + t.skew ∧ now - t.skew - t.window ≤ i := by
  simp [Unguarded, Fresh, keptUntil, Instant.not_lt]

theorem kept_eq (i : Instant) :
    i + t.skew + t.window = i + Duration.ofSeconds (t.skewSecs + t.windowSecs : Nat) :=
  Instant.add_add_ofSeconds i (.inl ⟨Int.natCast_nonneg _, Int.natCast_nonneg _⟩)

theorem oldest_eq (now : Instant) :
    now - t.skew - t.window = now + Duration.ofSeconds (-(t.skewSecs + t.windowSecs : Nat)) :=
  Instant.sub_sub_ofSeconds now t.skewSecs t.windowSecs

/-- On one clock the message is unguarded in one instant, when its issue lies outside leap seconds.
Otherwise it is unguarded up to the end of an ordinary second, if skew and window are not both
zero. -/
theorem unguarded_iff : t.Unguarded (some i) accepted now now ↔
    now = i + t.skew + t.window ∨
      (i.isLeap ∧ 0 < t.skewSecs + t.windowSecs ∧ ¬ now.isLeap ∧
        i + t.skew + t.window ≤ now ∧ now.second = (i + t.skew + t.window).second) := by
  have recent : i + t.skew + t.window ≤ now → i ≤ now + t.skew := fun kept =>
    Instant.le_trans (Instant.le_add_ofSeconds i t.skewSecs)
      (Instant.le_trans (Instant.le_add_ofSeconds _ t.windowSecs)
        (Instant.le_trans kept (Instant.le_add_ofSeconds now t.skewSecs)))
  have same : now = i + t.skew + t.window ↔ now.second = (i + t.skew + t.window).second ∧
      now.nano = (i + t.skew + t.window).nano := Instant.ext_iff
  rw [unguarded_some_iff, same, and_congr_right fun kept => and_iff_right (recent kept), kept_eq,
    oldest_eq]
  -- The rest is arithmetic on seconds and nanoseconds, by which instant lies in a leap second.
  clear recent same
  generalize t.skewSecs + t.windowSecs = n
  simp only [Instant.le_iff]
  have bound : i.nano < 2000000000 := i.nano_lt
  have bound' : now.nano < 2000000000 := now.nano_lt
  by_cases hi : i.isLeap
  · have kept := Instant.add_ofSeconds_leap hi n
    by_cases hn : now.isLeap
    · have oldest := Instant.add_ofSeconds_leap hn (-n)
      simp only [Instant.isLeap] at *
      grind
    · have oldest := Instant.add_ofSeconds_not_leap hn (-n)
      simp only [Instant.isLeap] at *
      grind
  · have kept := Instant.add_ofSeconds_not_leap hi n
    by_cases hn : now.isLeap
    · have oldest := Instant.add_ofSeconds_leap hn (-n)
      simp only [Instant.isLeap] at *
      grind
    · have oldest := Instant.add_ofSeconds_not_leap hn (-n)
      simp only [Instant.isLeap] at *
      grind

end FlowTerms

end Gatehouse
