import Gatehouse.Time.Instant

/-! # Adding whole seconds

Outside leap seconds whole seconds only move the second of an instant. A leap second is left to the
same place in an ordinary second: forwards, where it does not count, so many seconds on; backwards,
where it counts, one second less far back.
-/

namespace Gatehouse.Instant

theorem ofNanos_parts (s : Int) {n : Nat} (h : n < 1000000000) :
    (ofNanos (s * 1000000000 + n)).second = s ∧ (ofNanos (s * 1000000000 + n)).nano = n := by
  simp only [ofNanos]
  omega

theorem add_def (t : Instant) (d : Duration) : t + d = t.add d :=
  rfl

theorem sub_ofSeconds (t : Instant) (n : Int) :
    t - Duration.ofSeconds n = t + Duration.ofSeconds (-n) := by
  have same : -Duration.ofSeconds n = Duration.ofSeconds (-n) :=
    congrArg Duration.mk (Int.neg_mul n 1000000000).symm
  exact congrArg (t + ·) same

theorem add_ofSeconds_not_leap {t : Instant} (h : ¬ t.isLeap) (n : Int) :
    (t + Duration.ofSeconds n).second = t.second + n ∧
      (t + Duration.ofSeconds n).nano = t.nano := by
  have parts := ofNanos_parts (t.second + n) (show t.nano < 1000000000 from Nat.lt_of_not_le h)
  have sum : t.second * 1000000000 + t.nano + n * 1000000000 =
      (t.second + n) * 1000000000 + t.nano := by omega
  simpa only [add_def, add, dif_neg h, Duration.ofSeconds, sum] using parts

theorem add_ofSeconds_leap {t : Instant} (h : t.isLeap) (n : Int) :
    (t + Duration.ofSeconds n).second =
        (if 0 < n then t.second + n else if n < 0 then t.second + n + 1 else t.second) ∧
      (t + Duration.ofSeconds n).nano = (if n = 0 then t.nano else t.nano - 1000000000) := by
  have bound : t.nano < 2000000000 := t.nano_lt
  have leap : 1000000000 ≤ t.nano := h
  have whole : (n * 1000000000).tdiv 1000000000 = n := Int.mul_tdiv_cancel n (by decide)
  have rest : (n * 1000000000).tmod 1000000000 = 0 := Int.mul_tmod_left n 1000000000
  simp only [add_def, add, dif_pos h, Duration.ofSeconds, whole, rest]
  rcases Int.lt_trichotomy n 0 with neg | rfl | pos
  · have parts := ofNanos_parts (t.second + n + 1)
      (show t.nano - 1000000000 < 1000000000 by omega)
    have sum : t.second * 1000000000 + t.nano + n * 1000000000 =
        (t.second + n + 1) * 1000000000 + ((t.nano - 1000000000 : Nat) : Int) := by omega
    rw [if_neg (by omega), if_pos neg, if_neg (by omega), if_pos neg, if_neg (by omega), sum]
    exact parts
  · have inside : (t.nano : Int) < 2000000000 := by omega
    simp [inside]
  · have parts := ofNanos_parts (t.second + n)
      (show t.nano - 1000000000 < 1000000000 by omega)
    have sum : t.second * 1000000000 + t.nano + n * 1000000000 - 1000000000 =
        (t.second + n) * 1000000000 + ((t.nano - 1000000000 : Nat) : Int) := by omega
    rw [if_pos (.inl pos), if_pos pos, if_neg (by omega), sum]
    exact parts

/-- Whole seconds keep an instant outside leap seconds, and leave a leap second unless none are
added. -/
theorem isLeap_add_ofSeconds (t : Instant) (n : Int) :
    (t + Duration.ofSeconds n).isLeap ↔ t.isLeap ∧ n = 0 := by
  have bound : t.nano < 2000000000 := t.nano_lt
  by_cases h : t.isLeap
  · simp only [isLeap, (add_ofSeconds_leap h n).2]
    simp only [isLeap] at h
    split <;> omega
  · simp only [isLeap, (add_ofSeconds_not_leap h n).2]
    simp only [isLeap] at h
    omega

/-- More seconds lead further on. -/
theorem add_ofSeconds_mono (t : Instant) {m n : Int} (more : m ≤ n) :
    t + Duration.ofSeconds m ≤ t + Duration.ofSeconds n := by
  have bound : t.nano < 2000000000 := t.nano_lt
  rw [le_iff]
  by_cases h : t.isLeap
  · have fewer := add_ofSeconds_leap h m
    have further := add_ofSeconds_leap h n
    grind
  · have fewer := add_ofSeconds_not_leap h m
    have further := add_ofSeconds_not_leap h n
    omega

/-- Two steps in one direction are one step. -/
theorem add_add_ofSeconds (t : Instant) {m n : Int} (aligned : 0 ≤ m ∧ 0 ≤ n ∨ m ≤ 0 ∧ n ≤ 0) :
    t + Duration.ofSeconds m + Duration.ofSeconds n = t + Duration.ofSeconds (m + n) := by
  have stays := isLeap_add_ofSeconds t m
  by_cases h : t.isLeap
  · have first := add_ofSeconds_leap h m
    have both := add_ofSeconds_leap h (m + n)
    by_cases inside : (t + Duration.ofSeconds m).isLeap
    · have zero : m = 0 := (stays.1 inside).2
      have second := add_ofSeconds_leap inside n
      exact Instant.ext (by grind) (by grind)
    · have second := add_ofSeconds_not_leap inside n
      exact Instant.ext (by grind) (by grind)
  · have first := add_ofSeconds_not_leap h m
    have both := add_ofSeconds_not_leap h (m + n)
    have second := add_ofSeconds_not_leap (fun inside => h (stays.1 inside).1) n
    exact Instant.ext (by omega) (by omega)

theorem sub_sub_ofSeconds (t : Instant) (m n : Nat) :
    t - Duration.ofSeconds m - Duration.ofSeconds n = t + Duration.ofSeconds (-(m + n)) := by
  have backwards : -(m : Int) ≤ 0 ∧ -(n : Int) ≤ 0 := by omega
  rw [sub_ofSeconds, sub_ofSeconds, add_add_ofSeconds t (.inr backwards), Int.neg_add]

theorem add_ofSeconds_zero (t : Instant) : t + Duration.ofSeconds 0 = t := by
  by_cases h : t.isLeap
  · have same := add_ofSeconds_leap h 0
    exact Instant.ext (by simpa using same.1) (by simpa using same.2)
  · have same := add_ofSeconds_not_leap h 0
    exact Instant.ext (by simpa using same.1) same.2

theorem le_add_ofSeconds (t : Instant) (n : Nat) : t ≤ t + Duration.ofSeconds n := by
  have further := add_ofSeconds_mono t (Int.natCast_nonneg n)
  rwa [add_ofSeconds_zero] at further

end Gatehouse.Instant
