import Gatehouse.Proofs.Artifact.Memory
import Gatehouse.Proofs.Artifact.Redemption

/-! # Looking up a relying party

A look-up changes nothing and tells what a redemption would come to: to nothing, to a message for
everyone, or to a message for one relying party and a refusal for all others. It tests the expiry
that the storage keeps, a redemption also the one inside the record; in what artifact maps store
they are the same.
-/

namespace Gatehouse

/-- What a look-up foretells of redemptions, each by a presenter of its own. -/
inductive Foretells : Except Error (Option String) →
    (Option String → Except Error (Option Fragment)) → Prop where
  /-- There is nothing to redeem. -/
  | nothing {redeems} (always : ∀ presenter, redeems presenter = .ok none) :
      Foretells (.ok none) redeems
  /-- Everyone is handed the message. -/
  | unbound {redeems} (content : Fragment)
      (always : ∀ presenter, redeems presenter = .ok (some content)) :
      Foretells (.ok (some "")) redeems
  /-- One relying party is handed the message, and everyone else is refused. -/
  | bound {redeems} (name : String) (ne : name ≠ "") (content : Fragment)
      (own : redeems (some name) = .ok (some content))
      (other : ∀ presenter, presenter ≠ some name → redeems presenter =
        .error (.artifactTrustViolation name (Offer.presenterText presenter))) :
      Foretells (.ok (some name)) redeems
  /-- The storage answers neither the look-up nor any redemption. -/
  | failed {redeems} (fault : Error) (always : ∀ presenter, redeems presenter = .error fault) :
      Foretells (.error fault) redeems

namespace Offer

variable {o : Offer} {b : String}

theorem bound?_getD (o : Offer) : o.bound?.getD "" = o.relyingParty.getD "" := by
  by_cases free : o.relyingParty = none ∨ o.relyingParty = some ""
  · rw [bound?_of_empty free]
    rcases free with free | free
    · rw [free]
    · rw [free]
      rfl
  · rw [not_or] at free
    obtain ⟨b, named⟩ := Option.ne_none_iff_exists'.1 free.1
    rw [bound?_of_name named (fun empty => free.2 (empty ▸ named)), named]

theorem admits_of_free (free : o.relyingParty.getD "" = "") (presenter : Option String) :
    o.Admits presenter := by
  cases party : o.relyingParty with
  | none => exact .inl party
  | some b =>
      rw [party] at free
      exact .inr (.inl (party.trans (congrArg some free)))

theorem admits_iff_of_bound (named : o.relyingParty.getD "" = b) (ne : b ≠ "")
    (presenter : Option String) : o.Admits presenter ↔ presenter = some b := by
  cases party : o.relyingParty with
  | none =>
      rw [party] at named
      exact absurd named.symm ne
  | some c =>
      rw [party] at named
      obtain rfl : c = b := named
      simp [Admits, party, ne]

/-- What a look-up tells of an offer. -/
def told (o : Offer) (now : Instant) : Except Error (Option String) :=
  if o.expires ≤ now then .ok none else .ok (some (o.relyingParty.getD ""))

/-- A look-up foretells the redemption of an offer. -/
theorem foretells (o : Offer) (now : Instant) : Foretells (o.told now) (o.redeemed now) := by
  by_cases late : o.expires ≤ now
  · rw [told, if_pos late]
    exact .nothing fun presenter => by rw [redeemed, if_pos late]
  · have running : ∀ presenter, o.redeemed now presenter =
        if o.Admits presenter then .ok (some o.content)
        else .error (.artifactTrustViolation (o.relyingParty.getD "") (presenterText presenter)) :=
      fun presenter => by rw [redeemed, if_neg late]
    rw [told, if_neg late]
    obtain ⟨b, named⟩ : ∃ b, o.relyingParty.getD "" = b := ⟨_, rfl⟩
    rw [named] at running ⊢
    by_cases empty : b = ""
    · subst empty
      exact .unbound o.content fun presenter => by
        rw [running, if_pos (admits_of_free named presenter)]
    · refine .bound b empty o.content ?_ fun presenter other => ?_
      · rw [running, if_pos ((admits_iff_of_bound named empty _).2 rfl)]
      · rw [running, if_neg (mt (admits_iff_of_bound named empty _).1 other)]

theorem told_record (o : Offer) (now : Instant) :
    ArtifactMap.told now o.record = o.told now := by
  by_cases late : o.expires ≤ now
  · simp [told, ArtifactMap.told, record, Record.isExpired, late]
  · simp [told, ArtifactMap.told, record, Record.isExpired, late, ArtifactRecord.decode_encode,
      Except.map, bound?_getD]

end Offer

namespace ArtifactMap

variable {m : ArtifactMap} {s : Store} {clocks : ClockReadings} {a : Artifact} {name : RecordName}
  {reason : StorageError} {presenter : Option String}

theorem relyingParty_of_named (named : RecordName.of m.settings.context (key a) = .ok name) :
    m.relyingParty (.memory s) clocks a =
      (s.live? clocks.storage name).elim (.ok none) (told clocks.map) := by
  rw [relyingParty_memory, Store.read, named]
  rfl

theorem relyingParty_of_unnamed
    (unnamed : RecordName.of m.settings.context (key a) = .error reason) :
    m.relyingParty (.memory s) clocks a = .error (.ofStorage reason) := by
  rw [relyingParty_memory, Store.read, unnamed]
  rfl

theorem retrieve_of_named (named : RecordName.of m.settings.context (key a) = .ok name) :
    (m.retrieve (.memory s) clocks a presenter).1 =
      (s.live? clocks.storage name).elim (.ok none) (redeem clocks.map presenter) := by
  rw [retrieve_memory, Store.take_of_named named]
  rfl

theorem retrieve_of_unnamed
    (unnamed : RecordName.of m.settings.context (key a) = .error reason) :
    (m.retrieve (.memory s) clocks a presenter).1 = .error (.ofStorage reason) := by
  rw [retrieve_memory, Store.take_of_unnamed unnamed]
  rfl

/-- A look-up foretells the redemption from a store that shows nothing but offers under the name. -/
theorem relyingParty_foretells (clocks : ClockReadings)
    (named : RecordName.of m.settings.context (key a) = .ok name)
    (offered : ∀ stored, s.live? clocks.storage name = some stored →
      ∃ o : Offer, o.content.parent = none ∧ stored = o.record) :
    (∀ fault, m.relyingParty (.memory s) clocks a ≠ .error fault) ∧
      Foretells (m.relyingParty (.memory s) clocks a) fun presenter =>
        (m.retrieve (.memory s) clocks a presenter).1 := by
  simp only [relyingParty_of_named named, retrieve_of_named named]
  cases seen : s.live? clocks.storage name with
  | none =>
      refine ⟨fun fault told => ?_, .nothing fun presenter => rfl⟩
      cases told
  | some stored =>
      obtain ⟨o, alone, rfl⟩ := offered stored seen
      simp only [Option.elim_some, o.told_record, o.redeem_alone alone]
      refine ⟨fun fault told => ?_, o.foretells clocks.map⟩
      unfold Offer.told at told
      split at told <;> cases told

end ArtifactMap

namespace Use

/-- At every position of a run a look-up leaves the storage as it is and foretells what a redemption
comes to at the same readings of the clocks. It fails only where the context is none. -/
theorem lookup_foretells_redemption (sweep : Sweep) (uses : List Use) (m : ArtifactMap)
    (clocks : ClockReadings) (a : Artifact) :
    let s := after (.memory (.empty sweep)) uses
    let lookup : Use := ⟨m, clocks, a, .relyingParty⟩
    lookup.perform s = (.relyingParty (m.relyingParty s clocks a), s) ∧
      Foretells (m.relyingParty s clocks a) (fun presenter => (m.retrieve s clocks a presenter).1) ∧
      ((∃ fault, m.relyingParty s clocks a = .error fault) ↔
        ¬ RecordName.isLegal m.settings.context) := by
  intro s lookup
  obtain ⟨store, here, tracks⟩ := tracks sweep uses (Nat.le_refl uses.length)
  rw [List.take_length] at here
  have state : s = .memory store := here
  rw [state]
  refine ⟨rfl, ?_⟩
  by_cases legal : RecordName.isLegal m.settings.context
  · have offered : ∀ stored, store.live? clocks.storage lookup.slot.name = some stored →
        ∃ o : Offer, o.content.parent = none ∧ stored = o.record := by
      intro stored shown
      obtain ⟨i, o, stands, same⟩ := tracks.shown shown
      exact ⟨o, stands.alone, same⟩
    obtain ⟨answered, foretells⟩ :=
      ArtifactMap.relyingParty_foretells clocks (name_of_slot lookup legal) offered
    refine ⟨foretells, fun ⟨fault, told⟩ => absurd told (answered fault), fun illegal => ?_⟩
    exact absurd legal illegal
  · obtain ⟨reason, unnamed⟩ := no_name_of_slot lookup legal
    have failed : m.relyingParty (.memory store) clocks a = .error (.ofStorage reason) :=
      ArtifactMap.relyingParty_of_unnamed unnamed
    rw [failed]
    refine ⟨.failed _ fun presenter => ArtifactMap.retrieve_of_unnamed unnamed, ?_⟩
    exact ⟨fun _ => legal, fun _ => ⟨_, rfl⟩⟩

end Use

end Gatehouse
