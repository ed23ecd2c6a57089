/-! # Instants and durations

An instant is a whole second since 1970-01-01T00:00:00Z and a number of nanoseconds after it. The
nanoseconds of a leap second count on from one billion, so a leap second lies between the second
that it follows, the last of its minute, and the next one. Instants are ordered by second, then by
nanosecond.

Neither instants nor durations have bounds here. The calendar of a program ends some 262000 years
before and after the year 0, and a sum that lies beyond its end, such as that of the present and the
longest possible interval between two sweeps, makes the program stop without an answer. Such sums
are left out.
-/

namespace Gatehouse

/-- A span of time, in either direction. -/
structure Duration where
  nanos : Int
  deriving DecidableEq, Repr

namespace Duration

def ofSeconds (n : Int) : Duration :=
  ⟨n * 1000000000⟩

def ofMillis (n : Int) : Duration :=
  ⟨n * 1000000⟩

instance : Neg Duration := ⟨fun d => ⟨-d.nanos⟩⟩

end Duration

/-- A point in time. -/
structure Instant where
  second : Int
  nano : Nat
  nano_lt : nano < 2000000000
  leap_at : 1000000000 ≤ nano → second % 60 = 59
  deriving DecidableEq

namespace Instant

/-- The instant that lies so many nanoseconds after 1970, leap seconds not counted. -/
def ofNanos (n : Int) : Instant :=
  ⟨n / 1000000000, (n % 1000000000).toNat, by omega, by omega⟩

/-- The start of a second. -/
def ofSecond (n : Int) : Instant :=
  ⟨n, 0, by decide, by omega⟩

def isLeap (t : Instant) : Prop :=
  1000000000 ≤ t.nano

instance (t : Instant) : Decidable t.isLeap :=
  inferInstanceAs (Decidable (_ ≤ _))

def le (a b : Instant) : Prop :=
  a.second < b.second ∨ (a.second = b.second ∧ a.nano ≤ b.nano)

def lt (a b : Instant) : Prop :=
  a.second < b.second ∨ (a.second = b.second ∧ a.nano < b.nano)

instance : LE Instant := ⟨le⟩

instance : LT Instant := ⟨lt⟩

instance (a b : Instant) : Decidable (a ≤ b) :=
  inferInstanceAs (Decidable (_ ∨ _))

instance (a b : Instant) : Decidable (a < b) :=
  inferInstanceAs (Decidable (_ ∨ _))

/-- Adds a duration. From within a leap second the sum stays there as long as it only moves inside
it; on leaving it forwards the leap second does not count, on leaving it backwards it does. -/
def add (t : Instant) (d : Duration) : Instant :=
  let seconds := d.nanos.tdiv 1000000000
  let nanos := d.nanos.tmod 1000000000
  if leap : t.isLeap then
    if 0 < seconds ∨ (0 < nanos ∧ 2000000000 ≤ t.nano + nanos) then
      ofNanos (t.second * 1000000000 + t.nano + d.nanos - 1000000000)
    else if seconds < 0 then
      ofNanos (t.second * 1000000000 + t.nano + d.nanos)
    else if h : 0 ≤ t.nano + nanos ∧ t.nano + nanos < 2000000000 then
      ⟨t.second, (t.nano + nanos).toNat, by omega, fun _ => t.leap_at leap⟩
    else t
  else
    ofNanos (t.second * 1000000000 + t.nano + d.nanos)

instance : HAdd Instant Duration Instant := ⟨add⟩

instance : HSub Instant Duration Instant := ⟨fun t d => t + -d⟩

@[ext] theorem ext {a b : Instant} (hs : a.second = b.second) (hn : a.nano = b.nano) : a = b := by
  cases a; cases b; simp_all

theorem le_iff {a b : Instant} :
    a ≤ b ↔ a.second < b.second ∨ (a.second = b.second ∧ a.nano ≤ b.nano) :=
  Iff.rfl

theorem lt_iff {a b : Instant} :
    a < b ↔ a.second < b.second ∨ (a.second = b.second ∧ a.nano < b.nano) :=
  Iff.rfl

theorem le_refl (a : Instant) : a ≤ a := by
  rw [le_iff]; omega

theorem le_trans {a b c : Instant} (hab : a ≤ b) (hbc : b ≤ c) : a ≤ c := by
  rw [le_iff] at *; omega

theorem lt_of_lt_of_le {a b c : Instant} (hab : a < b) (hbc : b ≤ c) : a < c := by
  rw [le_iff] at *; rw [lt_iff] at *; omega

theorem lt_of_le_of_lt {a b c : Instant} (hab : a ≤ b) (hbc : b < c) : a < c := by
  rw [le_iff] at *; rw [lt_iff] at *; omega

theorem not_le {a b : Instant} : ¬ a ≤ b ↔ b < a := by
  rw [le_iff, lt_iff]; omega

theorem not_lt {a b : Instant} : ¬ a < b ↔ b ≤ a := by
  rw [le_iff, lt_iff]; omega

theorem le_antisymm {a b : Instant} (hab : a ≤ b) (hba : b ≤ a) : a = b := by
  rw [le_iff] at *
  exact ext (by omega) (by omega)

end Instant

end Gatehouse
