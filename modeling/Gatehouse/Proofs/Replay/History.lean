import Gatehouse.Replay.Register

/-! # Replay registers and what they have taken in

A register answers from its history alone: it holds an identifier exactly as long as some sighting
that it has taken in has not expired. Sweeps take away nothing that a later question could ask for,
as long as the clock does not go back.
-/

namespace Gatehouse.ReplayRegister

/-- Sightings taken in, each with the instant on which it expires. -/
abbrev History := List (ReplayKey × Instant)

/-- Whether a sighting of an identifier was taken in that has not expired. -/
def Unexpired (history : History) (now : Instant) (key : ReplayKey) : Prop :=
  ∃ expires, (key, expires) ∈ history ∧ now < expires

/-- From an instant on, a register holds what its history says, and nothing else. -/
def Follows (r : ReplayRegister) (history : History) (now : Instant) : Prop :=
  ∀ t key, now ≤ t → (r.holds t key = true ↔ Unexpired history t key)

variable {r : ReplayRegister} {history : History} {now t expires : Instant} {key : ReplayKey}

theorem holds_iff : r.holds t key = true ↔ ∃ x, r.seen.get? key = some x ∧ t < x := by
  simp [holds, Option.any_eq_true]

theorem holds_unexpired (h : now ≤ t) :
    ReplayRegister.holds ⟨r.unexpired now, r.sweep.done now⟩ t key = r.holds t key := by
  have same : (r.unexpired now).get? key = (r.seen.get? key).filter fun x => now < x :=
    Table.get?_filter _ _ _
  rw [Bool.eq_iff_iff, holds_iff, holds_iff]
  simp only [same, Option.filter_eq_some_iff, decide_eq_true_eq]
  constructor
  · rintro ⟨x, ⟨found, -⟩, later⟩
    exact ⟨x, found, later⟩
  · rintro ⟨x, found, later⟩
    exact ⟨x, ⟨found, Instant.lt_of_le_of_lt h later⟩, later⟩

theorem holds_swept (h : now ≤ t) : (r.swept now).holds t key = r.holds t key := by
  rw [swept]
  split
  · exact holds_unexpired h
  · rfl

theorem follows_entries (r : ReplayRegister) (now : Instant) : r.Follows r.seen.entries now := by
  intro t key _
  simp only [holds_iff, Unexpired, Table.get?_eq_some_iff]

theorem Follows.later (h : r.Follows history now) (le : now ≤ t) : r.Follows history t :=
  fun u key hu => h u key (Instant.le_trans le hu)

theorem Follows.swept (h : r.Follows history now) : (r.swept now).Follows history now := by
  intro t key ht
  rw [holds_swept ht]
  exact h t key ht

theorem check_eq_true_iff (expires : Instant) (h : r.Follows history now) :
    (r.check now key expires).1 = true ↔ ¬ Unexpired history now key := by
  rw [← h.swept now key (Instant.le_refl now), check]
  split <;> simp_all

theorem check_refused (h : r.Follows history now) (refused : (r.check now key expires).1 = false) :
    (r.check now key expires).2.Follows history now := by
  rw [check] at refused ⊢
  split at refused
  · next held => simpa only [held, if_true] using h.swept
  · cases refused

theorem check_taken (h : r.Follows history now) (taken : (r.check now key expires).1 = true) :
    (r.check now key expires).2.Follows ((key, expires) :: history) now := by
  have fresh : ¬ Unexpired history now key := (check_eq_true_iff expires h).1 taken
  intro t key' ht
  rw [check] at taken ⊢
  split at taken
  · cases taken
  · next absent =>
      simp only [absent, if_false, Bool.false_eq_true, holds_iff, Table.get?_insert,
        Unexpired, List.mem_cons, Prod.mk.injEq]
      by_cases same : key' = key
      · subst same
        simp only [if_true, Option.some.injEq, true_and]
        constructor
        · rintro ⟨x, rfl, later⟩
          exact ⟨expires, .inl rfl, later⟩
        · -- The new entry replaces an older one of its identifier, but that one has expired.
          rintro ⟨x, rfl | old, later⟩
          · exact ⟨x, rfl, later⟩
          · exact absurd ⟨x, old, Instant.lt_of_le_of_lt ht later⟩ fresh
      · simp only [same, if_false, false_and, false_or]
        exact holds_iff.symm.trans (h.swept t key' ht)

end Gatehouse.ReplayRegister
