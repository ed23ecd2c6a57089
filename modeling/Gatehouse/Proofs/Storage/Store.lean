import Gatehouse.Storage.Store

/-! # What a store shows

A store shows its records until they expire. A sweep takes away only what has expired by then, and
so changes nothing that is shown from then on.
-/

namespace Gatehouse

namespace RecordName

variable {context key : String}

theorem of_eq_ok (context_legal : isLegal context) (key_legal : isLegal key) :
    RecordName.of context key = .ok ⟨context, key⟩ := by
  simp [RecordName.of, context_legal, key_legal]

theorem of_eq_error (key : String) (illegal : ¬ isLegal context) :
    ∃ reason, RecordName.of context key = .error reason := by
  simp only [RecordName.of]
  rw [if_pos (by simpa using illegal)]
  exact ⟨_, rfl⟩

end RecordName

namespace Store

variable {s : Store} {now t : Instant} {name other : RecordName} {r : Record}

theorem live?_eq_some : s.live? t name = some r ↔
    s.records.get? name = some r ∧ t < r.expires := by
  simp only [live?, Option.filter_eq_some_iff, Record.isExpired, Bool.not_eq_true',
    decide_eq_false_iff_not, Instant.not_le]

/-- What has expired does not come back. -/
theorem live?_earlier (shown : s.live? t name = some r) (le : now ≤ t) :
    s.live? now name = some r := by
  obtain ⟨held, later⟩ := live?_eq_some.1 shown
  exact live?_eq_some.2 ⟨held, Instant.lt_of_le_of_lt le later⟩

theorem get?_swept (s : Store) (now : Instant) (name : RecordName) :
    (s.swept now).records.get? name = s.records.get? name ∨
      (s.swept now).records.get? name = s.live? now name := by
  unfold swept
  by_cases due : s.sweep.isDue now
  · rw [if_pos due]
    exact .inr (Table.get?_filter _ _ _)
  · rw [if_neg due]
    exact .inl rfl

theorem live?_of_swept (shown : (s.swept now).live? t name = some r) :
    s.live? t name = some r := by
  obtain ⟨held, later⟩ := live?_eq_some.1 shown
  rcases get?_swept s now name with same | same
  · exact live?_eq_some.2 ⟨same ▸ held, later⟩
  · exact live?_eq_some.2 ⟨(live?_eq_some.1 (same ▸ held)).1, later⟩

/-- From its instant on a sweep is not seen. -/
theorem live?_swept (le : now ≤ t) : (s.swept now).live? t name = s.live? t name := by
  apply Option.ext
  intro r
  refine ⟨live?_of_swept, fun shown => ?_⟩
  have here : s.live? now name = some r := live?_earlier shown le
  obtain ⟨held, later⟩ := live?_eq_some.1 shown
  rcases get?_swept s now name with same | same
  · exact live?_eq_some.2 ⟨same.trans held, later⟩
  · exact live?_eq_some.2 ⟨same.trans here, later⟩

theorem live?_insert (sweep : Sweep) :
    live? ⟨s.records.insert name r, sweep⟩ t other =
      if other = name then (some r).filter (fun r => !r.isExpired t) else s.live? t other := by
  simp only [live?, Table.get?_insert]
  split <;> rfl

theorem live?_erase (sweep : Sweep) :
    live? ⟨s.records.erase name, sweep⟩ t other =
      if other = name then none else s.live? t other := by
  simp only [live?, Table.get?_erase]
  split <;> rfl

variable {context key : String} {fault : StorageError}

theorem create_of_free (r : Record) (named : RecordName.of context key = .ok name)
    (free : s.live? now name = none) :
    s.create now context key r =
      (.ok (), { s.swept now with records := (s.swept now).records.insert name r }) := by
  simp only [create, named, live?_swept (Instant.le_refl now), free]

theorem create_of_shown {shown : Record} (r : Record)
    (named : RecordName.of context key = .ok name) (taken : s.live? now name = some shown) :
    s.create now context key r = (.error (.duplicate context key), s.swept now) := by
  simp only [create, named, live?_swept (Instant.le_refl now), taken]

theorem create_of_unnamed (r : Record) (unnamed : RecordName.of context key = .error fault) :
    s.create now context key r = (.error fault, s) := by
  simp only [create, unnamed]

theorem take_of_named (named : RecordName.of context key = .ok name) :
    s.take now context key =
      (.ok (s.live? now name), { s with records := s.records.erase name }) := by
  simp only [take, named]

theorem take_of_unnamed (unnamed : RecordName.of context key = .error fault) :
    s.take now context key = (.error fault, s) := by
  simp only [take, unnamed]

end Store

end Gatehouse
