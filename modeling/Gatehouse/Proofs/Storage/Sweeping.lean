import Gatehouse.Data.Table
import Gatehouse.Proofs.Time.Seconds
import Gatehouse.Storage.Sweep

/-! # Tables that are swept

A table whose expired entries are swept out now and then, before something is put in. What it holds
has been written since the last sweep or had not expired by then, and the last sweep is never longer
ago than the interval.
-/

namespace Gatehouse

/-- A span back leads back, in a leap second as well. -/
theorem Instant.add_le_of_nonpos {d : Duration} (back : d.nanos ≤ 0) (t : Instant) : t + d ≤ t := by
  have forth : 0 ≤ -d.nanos := by omega
  have whole := Int.tdiv_nonneg forth (show (0 : Int) ≤ 1000000000 by decide)
  have rest := Int.tmod_nonneg 1000000000 forth
  rw [Int.neg_tdiv] at whole
  rw [Int.neg_tmod] at rest
  have parts := Int.mul_tdiv_add_tmod d.nanos 1000000000
  have bound := t.nano_lt
  rw [le_iff, add_def, add]
  by_cases leap : t.isLeap
  · have far : 1000000000 ≤ t.nano := leap
    rw [dif_pos leap, if_neg (by omega)]
    split
    · simp only [ofNanos]
      omega
    · split
      · exact .inr ⟨rfl, show (t.nano + d.nanos.tmod 1000000000).toNat ≤ t.nano by omega⟩
      · exact .inr ⟨rfl, Nat.le_refl _⟩
  · have near : t.nano < 1000000000 := Nat.lt_of_not_le leap
    rw [dif_neg leap]
    simp only [ofNanos]
    omega

/-- A value that is put under a key, and when. -/
structure Write (κ ν : Type) where
  now : Instant
  key : κ
  value : ν

/-- The write under a key that was the last. -/
def lastWrite? {κ ν : Type} [DecidableEq κ] (k : κ) (writes : List (Write κ ν)) :
    Option (Write κ ν) :=
  (writes.filter fun w => w.key = k).getLast?

/-- Whether all that a table holds was last written like that, and either expires after an instant
or was written no earlier. -/
def TidySince {κ ν : Type} [DecidableEq κ] (expires : ν → Instant) (p : Instant) (t : Table κ ν)
    (writes : List (Write κ ν)) : Prop :=
  ∀ k v, t.get? k = some v →
    ∃ w, lastWrite? k writes = some ⟨w, k, v⟩ ∧ (p < expires v ∨ p ≤ w)

/-- A table just after it was swept, if a sweep was due: only what was written since the last sweep
may have expired by that, and the last sweep is less than the interval ago. -/
structure Tidy {κ ν : Type} [DecidableEq κ] (expires : ν → Instant) (interval : Duration)
    (now : Instant) (t : Table κ ν) (writes : List (Write κ ν)) : Prop where
  since : ∃ p, p ≤ now ∧ (p = now ∨ now < p + interval) ∧ TidySince expires p t writes
  /-- With an interval that is not positive, what has expired has been written just now. -/
  at_once : interval.nanos ≤ 0 → ∀ k v, t.get? k = some v → expires v ≤ now →
    lastWrite? k writes = some ⟨now, k, v⟩

/-- A table between two calls: nothing has been put in yet, or it was last swept at some instant. -/
structure Tended {κ ν : Type} [DecidableEq κ] (expires : ν → Instant) (interval : Duration)
    (now : Instant) (sweep : Sweep) (t : Table κ ν) (writes : List (Write κ ν)) : Prop where
  past : ∀ w ∈ writes, w.now ≤ now
  state : (sweep = ⟨interval, none⟩ ∧ ∀ k, t.get? k = none) ∨
    ∃ p, p ≤ now ∧ sweep = ⟨interval, some (p + interval)⟩ ∧ TidySince expires p t writes

/-- A table just after the sweep that was due, if one was. -/
structure JustTended {κ ν : Type} [DecidableEq κ] (expires : ν → Instant) (interval : Duration)
    (now : Instant) (sweep : Sweep) (t : Table κ ν) (writes : List (Write κ ν)) : Prop where
  past : ∀ w ∈ writes, w.now ≤ now
  state : ∃ p, p ≤ now ∧ (p = now ∨ now < p + interval) ∧
    sweep = ⟨interval, some (p + interval)⟩ ∧ TidySince expires p t writes

variable {κ ν : Type} [DecidableEq κ] {expires : ν → Instant} {interval : Duration}
  {now p u : Instant} {sweep : Sweep} {t : Table κ ν} {writes : List (Write κ ν)} {k : κ} {v : ν}
  {keep : κ → ν → Bool}

theorem Table.get?_filter_eq_some :
    (t.filter keep).get? k = some v ↔ t.get? k = some v ∧ keep k v = true := by
  rw [get?_filter, Option.filter_eq_some_iff]

theorem lastWrite?_append (w : Write κ ν) : lastWrite? k (writes ++ [w]) =
    if w.key = k then some w else lastWrite? k writes := by
  rw [lastWrite?, List.filter_append]
  by_cases same : w.key = k
  · simp [same]
  · simp [same, lastWrite?]

theorem mem_of_lastWrite? {w : Write κ ν} (last : lastWrite? k writes = some w) : w ∈ writes :=
  (List.mem_filter.1 (List.mem_of_getLast? last)).1

/-! ## What operations keep -/

theorem TidySince.filter (tidy : TidySince expires p t writes) (keep : κ → ν → Bool) :
    TidySince expires p (t.filter keep) writes :=
  fun k v held => tidy k v (Table.get?_filter_eq_some.1 held).1

theorem TidySince.insert (tidy : TidySince expires p t writes) (le : p ≤ now) (k : κ) (v : ν) :
    TidySince expires p (t.insert k v) (writes ++ [⟨now, k, v⟩]) := by
  intro k' v' held
  rw [Table.get?_insert] at held
  rw [lastWrite?_append]
  by_cases same : k' = k
  · rw [if_pos same] at held
    obtain rfl := Option.some.inj held
    exact ⟨now, by simp [same], .inr le⟩
  · rw [if_neg same] at held
    simpa [Ne.symm same] using tidy k' v' held

/-- Dropping what has expired is as good as having swept at the instant of it. -/
theorem TidySince.onward (tidy : TidySince expires p t writes)
    (unexpired : ∀ k v, keep k v = true → now < expires v) :
    TidySince expires now (t.filter keep) writes := by
  intro k v held
  obtain ⟨before, kept⟩ := Table.get?_filter_eq_some.1 held
  obtain ⟨w, last, -⟩ := tidy k v before
  exact ⟨w, last, .inl (unexpired k v kept)⟩

theorem Tended.later (tended : Tended expires interval now sweep t writes) (le : now ≤ u) :
    Tended expires interval u sweep t writes :=
  ⟨fun w mem => Instant.le_trans (tended.past w mem) le,
    tended.state.imp_right fun ⟨p, past, swept⟩ => ⟨p, Instant.le_trans past le, swept⟩⟩

theorem Tended.filter (tended : Tended expires interval now sweep t writes) (keep : κ → ν → Bool) :
    Tended expires interval now sweep (t.filter keep) writes := by
  refine ⟨tended.past, tended.state.imp ?_ ?_⟩
  · intro ⟨unswept, nothing⟩
    exact ⟨unswept, fun k => by rw [Table.get?_filter, nothing k, Option.filter_none]⟩
  · intro ⟨p, le, swept, tidy⟩
    exact ⟨p, le, swept, tidy.filter keep⟩

theorem Tended.erase (tended : Tended expires interval now sweep t writes) (k : κ) :
    Tended expires interval now sweep (t.erase k) writes :=
  tended.filter _

/-- What a sweep does that is due. -/
theorem Tended.due (tended : Tended expires interval now sweep t writes)
    (unexpired : ∀ k v, keep k v = true → now < expires v) :
    JustTended expires interval now (sweep.done now) (t.filter keep) writes := by
  refine ⟨tended.past, now, Instant.le_refl now, .inl rfl, ?_⟩
  rcases tended.state with ⟨rfl, nothing⟩ | ⟨p, le, rfl, tidy⟩
  · refine ⟨rfl, fun k v held => ?_⟩
    cases (nothing k).symm.trans (Table.get?_filter_eq_some.1 held).1
  · exact ⟨rfl, tidy.onward unexpired⟩

theorem Tended.undue (tended : Tended expires interval now sweep t writes)
    (early : sweep.isDue now = false) : JustTended expires interval now sweep t writes := by
  refine ⟨tended.past, ?_⟩
  rcases tended.state with ⟨rfl, -⟩ | ⟨p, le, rfl, tidy⟩
  · cases early
  · have early : now < p + interval := by simpa [Sweep.isDue, Instant.not_le] using early
    exact ⟨p, le, .inr early, rfl, tidy⟩

theorem JustTended.tended (tended : JustTended expires interval now sweep t writes) :
    Tended expires interval now sweep t writes := by
  obtain ⟨p, le, -, swept, tidy⟩ := tended.state
  exact ⟨tended.past, .inr ⟨p, le, swept, tidy⟩⟩

theorem JustTended.insert (tended : JustTended expires interval now sweep t writes) (k : κ) (v : ν) :
    JustTended expires interval now sweep (t.insert k v) (writes ++ [⟨now, k, v⟩]) := by
  obtain ⟨p, le, recent, swept, tidy⟩ := tended.state
  refine ⟨fun w mem => ?_, p, le, recent, swept, tidy.insert le k v⟩
  rcases List.mem_append.1 mem with before | this
  · exact tended.past w before
  · obtain rfl := List.mem_singleton.1 this
    exact Instant.le_refl now

theorem JustTended.tidy (tended : JustTended expires interval now sweep t writes) :
    Tidy expires interval now t writes := by
  obtain ⟨p, le, recent, -, tidy⟩ := tended.state
  refine ⟨⟨p, le, recent, tidy⟩, fun back k v held expired => ?_⟩
  have here : p = now := by
    refine recent.resolve_right fun later => ?_
    exact absurd (Instant.le_trans (Instant.add_le_of_nonpos back p) le) (Instant.not_le.2 later)
  obtain ⟨w, last, unexpired | since⟩ := tidy k v held
  · rw [here] at unexpired
    exact absurd expired (Instant.not_le.2 unexpired)
  · rw [here] at since
    have past : w ≤ now := tended.past _ (mem_of_lastWrite? last)
    obtain rfl : now = w := Instant.le_antisymm since past
    exact last

end Gatehouse
