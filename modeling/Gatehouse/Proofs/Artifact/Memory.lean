import Gatehouse.Proofs.Artifact.Uses

/-! # Maps over a store in memory

A call on a map is one call on the store, and its answer is made from the answer of the store.
-/

namespace Gatehouse.ArtifactMap

variable {m : ArtifactMap} {s : Store} {clocks : ClockReadings} {content : Fragment} {a : Artifact}
  {relyingParty : Option String}

theorem store_attached {parent : String} (attached : content.parent = some parent) (s : Storage) :
    m.store s clocks content a relyingParty = (.error (.contractViolation
      ("cannot store artifact content that has a parent (" ++ parent ++ ")")), s) := by
  simp only [store, attached]

/-- What the storage is asked to keep for a message. -/
def kept (m : ArtifactMap) (now : Instant) (content : Fragment) (relyingParty : Option String) :
    Record :=
  Offer.record ⟨content, relyingParty, now + m.settings.ttl⟩

theorem store_memory (alone : content.parent = none) :
    m.store (.memory s) clocks content a relyingParty =
      ((s.create clocks.storage m.settings.context (key a)
          (m.kept clocks.map content relyingParty)).1.mapError .ofStorage,
        .memory (s.create clocks.storage m.settings.context (key a)
          (m.kept clocks.map content relyingParty)).2) := by
  simp only [store, alone]
  rfl

theorem name_eq_ok (a : Artifact) (legal : RecordName.isLegal m.settings.context) :
    RecordName.of m.settings.context (key a) = .ok ⟨m.settings.context, key a⟩ :=
  RecordName.of_eq_ok legal (Slot.key_legal a.handle)

/-- Whether a message is turned away: it is attached, the context is none, or there is another
message under the handle that has not expired. -/
def Refuses (m : ArtifactMap) (s : Store) (now : Instant) (content : Fragment) (a : Artifact) :
    Prop :=
  content.parent ≠ none ∨ ¬ RecordName.isLegal m.settings.context ∨
    ∃ r, s.live? now ⟨m.settings.context, key a⟩ = some r

theorem store_of_refused (relyingParty : Option String)
    (refuses : m.Refuses s clocks.storage content a) :
    ∃ fault left, m.store (.memory s) clocks content a relyingParty = (.error fault, .memory left) ∧
      (left = s ∨ left = s.swept clocks.storage) := by
  cases attached : content.parent with
  | some parent => exact ⟨_, s, store_attached attached _, .inl rfl⟩
  | none =>
      rw [store_memory attached]
      by_cases legal : RecordName.isLegal m.settings.context
      · obtain ⟨r, shown⟩ := (refuses.resolve_left (not_not_intro attached)).resolve_left
          (not_not_intro legal)
        rw [Store.create_of_shown _ (name_eq_ok a legal) shown]
        exact ⟨_, _, rfl, .inr rfl⟩
      · obtain ⟨reason, unnamed⟩ := RecordName.of_eq_error (key a) legal
        rw [Store.create_of_unnamed _ unnamed]
        exact ⟨_, s, rfl, .inl rfl⟩

theorem store_of_taken (relyingParty : Option String)
    (takes : ¬ m.Refuses s clocks.storage content a) :
    m.store (.memory s) clocks content a relyingParty = (.ok (), .memory
      { s.swept clocks.storage with
        records := (s.swept clocks.storage).records.insert ⟨m.settings.context, key a⟩
          (m.kept clocks.map content relyingParty) }) := by
  simp only [Refuses, not_or, ne_eq, Classical.not_not, not_exists] at takes
  obtain ⟨alone, legal, free⟩ := takes
  rw [store_memory alone,
    Store.create_of_free _ (name_eq_ok a legal) (Option.eq_none_iff_forall_ne_some.2 free)]
  rfl

theorem refuses_of_error {fault : Error}
    (refused : (m.store (.memory s) clocks content a relyingParty).1 = .error fault) :
    m.Refuses s clocks.storage content a := by
  apply Classical.byContradiction
  intro takes
  rw [store_of_taken relyingParty takes] at refused
  cases refused

theorem not_refuses_of_ok
    (stored : (m.store (.memory s) clocks content a relyingParty).1 = .ok ()) :
    ¬ m.Refuses s clocks.storage content a := by
  intro refuses
  obtain ⟨fault, left, refused, -⟩ := store_of_refused relyingParty refuses
  rw [refused] at stored
  cases stored

theorem retrieve_memory (m : ArtifactMap) (s : Store) (clocks : ClockReadings) (a : Artifact)
    (presenter : Option String) :
    m.retrieve (.memory s) clocks a presenter =
      (((s.take clocks.storage m.settings.context (key a)).1.mapError .ofStorage).bind fun shown =>
          shown.elim (.ok none) (redeem clocks.map presenter),
        .memory (s.take clocks.storage m.settings.context (key a)).2) := by
  simp only [retrieve, Storage.take]
  rcases s.take clocks.storage m.settings.context (key a) with ⟨answer, left⟩
  cases answer with
  | error fault => rfl
  | ok shown => cases shown <;> rfl

/-- What a look-up tells of a record that the storage shows. -/
def told (now : Instant) (stored : Record) : Except Error (Option String) :=
  if stored.isExpired now then .ok none
  else (ArtifactRecord.decode stored.value).map fun record => some (record.relyingParty.getD "")

theorem relyingParty_memory (m : ArtifactMap) (s : Store) (clocks : ClockReadings) (a : Artifact) :
    m.relyingParty (.memory s) clocks a =
      ((s.read clocks.storage m.settings.context (key a)).mapError .ofStorage).bind fun shown =>
        shown.elim (.ok none) (told clocks.map) := by
  simp only [ArtifactMap.relyingParty, Storage.read]
  cases s.read clocks.storage m.settings.context (key a) with
  | error fault => rfl
  | ok shown => cases shown <;> rfl

end Gatehouse.ArtifactMap
