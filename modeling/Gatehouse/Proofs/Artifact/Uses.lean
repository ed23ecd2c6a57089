import Gatehouse.Artifact.Map
import Gatehouse.Proofs.Artifact.Record
import Gatehouse.Proofs.Storage.Store

/-! # Uses of artifact maps

Any number of maps keep their messages in one storage. A message is kept in a slot, which the
context of the map and the handle of the artifact make; two artifacts share a slot when their
handles are equal. A use is a call on one of the maps, with what the clocks read then.
-/

namespace Gatehouse

/-- Where a message is kept. -/
structure Slot where
  context : String
  handle : Handle
  deriving DecidableEq

namespace Slot

def name (s : Slot) : RecordName :=
  ⟨s.context, Hex.encode s.handle.bytes⟩

theorem name_inj {a b : Slot} : a.name = b.name ↔ a = b := by
  constructor
  · intro same
    obtain ⟨context, key⟩ := RecordName.mk.inj same
    have handle : a.handle = b.handle := Octets.ext (Hex.encode_inj.1 key)
    cases a
    cases b
    simp_all
  · rintro rfl
    rfl

theorem key_legal (h : Handle) : RecordName.isLegal (Hex.encode h.bytes) = true := by
  simp [RecordName.isLegal, RecordName.maxBytes, Hex.utf8ByteSize_encode, h.length_eq]

end Slot

/-- A message that may be redeemed, by whom and until when. -/
structure Offer where
  content : Fragment
  relyingParty : Option String
  expires : Instant

namespace Offer

/-- The relying party that the redemption is restricted to. An empty name is no restriction. -/
def bound? (o : Offer) : Option String :=
  o.relyingParty.filter (!·.isEmpty)

def record (o : Offer) : Record :=
  ⟨ArtifactRecord.encode ⟨o.content.xml, o.bound?, o.expires⟩, o.expires⟩

theorem redeem_record (o : Offer) (now : Instant) (presenter : Option String) :
    ArtifactMap.redeem now presenter o.record =
      if o.expires ≤ now then .ok none
      else
        (ArtifactMap.checkPresenter o.bound? presenter).map fun _ => some o.content.detached := by
  by_cases late : o.expires ≤ now
  · simp [ArtifactMap.redeem, record, Record.isExpired, late, pure, Except.pure]
  · simp only [ArtifactMap.redeem, record, Record.isExpired, late, decide_false, if_false,
      ArtifactRecord.decode_encode, Fragment.parse_xml, bind, Except.bind, Bool.false_eq_true]
    cases ArtifactMap.checkPresenter o.bound? presenter <;> rfl

end Offer

inductive UseKind where
  | store (content : Fragment) (relyingParty : Option String)
  | retrieve (presenter : Option String)
  | relyingParty

structure Use where
  map : ArtifactMap
  clocks : ClockReadings
  artifact : Artifact
  kind : UseKind

inductive Answer where
  | stored (result : Except Error Unit)
  | retrieved (result : Except Error (Option Fragment))
  | relyingParty (result : Except Error (Option String))

namespace Use

def slot (u : Use) : Slot :=
  ⟨u.map.settings.context, u.artifact.handle⟩

/-- What a call puts on offer if it stores. -/
def offer? (u : Use) : Option Offer :=
  match u.kind with
  | .store content relyingParty =>
      some ⟨content, relyingParty, u.clocks.map + u.map.settings.ttl⟩
  | _ => none

def perform (u : Use) (s : Storage) : Answer × Storage :=
  match u.kind with
  | .store content relyingParty =>
      (u.map.store s u.clocks content u.artifact relyingParty).map .stored id
  | .retrieve presenter => (u.map.retrieve s u.clocks u.artifact presenter).map .retrieved id
  | .relyingParty => (.relyingParty (u.map.relyingParty s u.clocks u.artifact), s)

/-- What a call may do to a store in memory. -/
inductive Effect (u : Use) (s : Store) : Answer → Store → Prop where
  /-- A message is put on offer in a slot that shows none. -/
  | stored (o : Offer) (offers : u.offer? = some o) (alone : o.content.parent = none)
      (legal : RecordName.isLegal u.slot.context)
      (free : s.live? u.clocks.storage u.slot.name = none) :
      Effect u s (.stored (.ok ()))
        { s.swept u.clocks.storage with
          records := (s.swept u.clocks.storage).records.insert u.slot.name o.record }
  /-- A message is not taken. -/
  | refused (o : Offer) (fault : Error) (left : Store) (offers : u.offer? = some o)
      (unchanged : left = s ∨ left = s.swept u.clocks.storage) :
      Effect u s (.stored (.error fault)) left
  /-- What is on offer in a slot is taken out of it. -/
  | retrieved (presenter : Option String) (kind : u.kind = .retrieve presenter)
      (legal : RecordName.isLegal u.slot.context) :
      Effect u s
        (.retrieved ((s.live? u.clocks.storage u.slot.name).elim (.ok none)
          (ArtifactMap.redeem u.clocks.map presenter)))
        { s with records := s.records.erase u.slot.name }
  /-- The storage has no such slot. -/
  | unnamed (presenter : Option String) (fault : Error) (kind : u.kind = .retrieve presenter)
      (illegal : ¬ RecordName.isLegal u.slot.context) :
      Effect u s (.retrieved (.error fault)) s
  | relyingParty (result : Except Error (Option String)) (kind : u.kind = .relyingParty) :
      Effect u s (.relyingParty result) s

theorem name_of_slot (u : Use) (legal : RecordName.isLegal u.slot.context) :
    RecordName.of u.map.settings.context (ArtifactMap.key u.artifact) = .ok u.slot.name :=
  RecordName.of_eq_ok legal (Slot.key_legal _)

theorem no_name_of_slot (u : Use) (illegal : ¬ RecordName.isLegal u.slot.context) :
    ∃ reason, RecordName.of u.map.settings.context (ArtifactMap.key u.artifact) = .error reason :=
  RecordName.of_eq_error _ illegal

theorem perform_store {content : Fragment} {relyingParty : Option String} (u : Use) (s : Store)
    (kind : u.kind = .store content relyingParty) :
    ∃ left, (u.perform (.memory s)).2 = .memory left ∧
      u.Effect s (u.perform (.memory s)).1 left := by
  have offers : u.offer? = some ⟨content, relyingParty, u.clocks.map + u.map.settings.ttl⟩ := by
    simp only [offer?, kind]
  have record : ∀ record, record = u.map.record u.clocks.map content relyingParty →
      (⟨record.encode, record.expires⟩ : Record) =
        Offer.record ⟨content, relyingParty, u.clocks.map + u.map.settings.ttl⟩ := by
    rintro record rfl
    rfl
  simp only [perform, kind, ArtifactMap.store]
  cases attached : content.parent with
  | some parent => exact ⟨s, rfl, .refused _ _ s offers (.inl rfl)⟩
  | none =>
      simp only [Storage.create, record _ rfl]
      by_cases legal : RecordName.isLegal u.slot.context
      · have named := name_of_slot u legal
        cases shown : s.live? u.clocks.storage u.slot.name with
        | some r =>
            rw [Store.create_of_shown _ named shown]
            exact ⟨_, rfl, .refused _ _ _ offers (.inr rfl)⟩
        | none =>
            rw [Store.create_of_free _ named shown]
            exact ⟨_, rfl, .stored _ offers attached legal shown⟩
      · obtain ⟨reason, unnamed⟩ := no_name_of_slot u legal
        rw [Store.create_of_unnamed _ unnamed]
        exact ⟨s, rfl, .refused _ _ s offers (.inl rfl)⟩

theorem perform_retrieve {presenter : Option String} (u : Use) (s : Store)
    (kind : u.kind = .retrieve presenter) :
    ∃ left, (u.perform (.memory s)).2 = .memory left ∧
      u.Effect s (u.perform (.memory s)).1 left := by
  simp only [perform, kind, ArtifactMap.retrieve, Storage.take]
  by_cases legal : RecordName.isLegal u.slot.context
  · have retrieved := Effect.retrieved (s := s) presenter kind legal
    rw [Store.take_of_named (name_of_slot u legal)]
    cases shown : s.live? u.clocks.storage u.slot.name with
    | none =>
        rw [shown] at retrieved
        exact ⟨_, rfl, retrieved⟩
    | some r =>
        rw [shown] at retrieved
        exact ⟨_, rfl, retrieved⟩
  · obtain ⟨reason, unnamed⟩ := no_name_of_slot u legal
    rw [Store.take_of_unnamed unnamed]
    exact ⟨s, rfl, .unnamed presenter _ kind legal⟩

/-- Every call on a store in memory has one of these effects. -/
theorem perform_effect (u : Use) (s : Store) :
    ∃ left, (u.perform (.memory s)).2 = .memory left ∧
      u.Effect s (u.perform (.memory s)).1 left := by
  cases kind : u.kind with
  | store content relyingParty => exact perform_store u s kind
  | retrieve presenter => exact perform_retrieve u s kind
  | relyingParty =>
      simp only [perform, kind]
      exact ⟨s, rfl, .relyingParty _ kind⟩

end Use

end Gatehouse
