import Gatehouse.Artifact.Record
import Gatehouse.Config.Settings
import Gatehouse.Diagnostics.Outline
import Gatehouse.Fragment
import Gatehouse.Storage.Service

/-! # Artifact maps

The sender of a message by reference keeps the message in an artifact map, under the artifact that
it hands out; the receiver later redeems the artifact for the message. A message can be redeemed
once and within the map's time to live, and the sender may restrict the redemption to one relying
party. A map has no state but its settings: what it keeps is in a storage, which several maps may
share.
-/

namespace Gatehouse

structure ArtifactMap where
  settings : ArtifactMapSettings

/-- What the clocks read at a call: the storage's clock and the map's may differ. -/
structure ClockReadings where
  storage : Instant
  map : Instant

namespace ArtifactMap

/-- The key of an artifact's record: its handle in hexadecimal. -/
def key (a : Artifact) : String :=
  Hex.encode a.handle.bytes

/-- The record of a message. An empty relying party is none. -/
def record (m : ArtifactMap) (now : Instant) (content : Fragment) (relyingParty : Option String) :
    ArtifactRecord where
  content := content.xml
  relyingParty := relyingParty.filter (!·.isEmpty)
  expires := now + m.settings.ttl

/-- Keeps a message for an artifact. The message may not be part of a larger document. -/
def store (m : ArtifactMap) (s : Storage) (clocks : ClockReadings) (content : Fragment)
    (a : Artifact) (relyingParty : Option String) : Except Error Unit × Storage :=
  match content.parent with
  | some parent =>
    (.error (.contractViolation
      ("cannot store artifact content that has a parent (" ++ parent ++ ")")), s)
  | none =>
    let record := m.record clocks.map content relyingParty
    (s.create clocks.storage m.settings.context (key a) ⟨record.encode, record.expires⟩).map
      (Except.mapError .ofStorage) id

/-- Whether a presenter may redeem what is restricted to a relying party. -/
def checkPresenter (relyingParty presenter : Option String) : Except Error Unit :=
  match relyingParty with
  | none => .ok ()
  | some bound =>
    let actual := presenter.getD ""
    if actual = bound then .ok ()
    else .error (.artifactTrustViolation bound (if actual.isEmpty then "(none)" else actual))

def redeem (now : Instant) (presenter : Option String) (stored : Record) :
    Except Error (Option Fragment) := do
  if stored.isExpired now then
    return none
  let record ← ArtifactRecord.decode stored.value
  if record.expires ≤ now then
    return none
  checkPresenter record.relyingParty presenter
  return some (← Fragment.parse record.content)

/-- Redeems an artifact. Its record is gone afterwards, whatever the outcome. -/
def retrieve (m : ArtifactMap) (s : Storage) (clocks : ClockReadings) (a : Artifact)
    (presenter : Option String) : Except Error (Option Fragment) × Storage :=
  match s.take clocks.storage m.settings.context (key a) with
  | (.error e, s) => (.error (.ofStorage e), s)
  | (.ok none, s) => (.ok none, s)
  | (.ok (some stored), s) => (redeem clocks.map presenter stored, s)

/-- The relying party that the redemption of an artifact is restricted to, empty where there is no
restriction. Answers `none` where there is nothing to redeem. -/
def relyingParty (m : ArtifactMap) (s : Storage) (clocks : ClockReadings) (a : Artifact) :
    Except Error (Option String) :=
  match s.read clocks.storage m.settings.context (key a) with
  | .error e => .error (.ofStorage e)
  | .ok none => .ok none
  | .ok (some stored) =>
    if stored.isExpired clocks.map then .ok none
    else (ArtifactRecord.decode stored.value).map fun record => some (record.relyingParty.getD "")

def outline (m : ArtifactMap) : Outline :=
  .record "ArtifactMap"
    [("config", .record "ArtifactMapConfig"
      [("context", .quoted m.settings.context),
        ("artifact_ttl_secs", .plain (toString m.settings.ttlSecs))] true)] false

end ArtifactMap

end Gatehouse
