import Gatehouse.Config.Attributes
import Gatehouse.Json.Record
import Gatehouse.Time.Instant

/-! # Settings

What the parts of the security layer can be told: by an attribute map or by a JSON record, whose
absent fields have defaults.
-/

namespace Gatehouse

structure SecuritySettings where
  /-- The difference between the clocks of two peers that is tolerated. -/
  clockSkewSecs : Nat := 180
  deriving DecidableEq, Repr

namespace SecuritySettings

def clockSkew (s : SecuritySettings) : Duration :=
  .ofSeconds s.clockSkewSecs

def ofJson? (j : Json) : Option SecuritySettings := do
  let [skew] ← j.fields? ["clock_skew_secs"] 0 | none
  return ⟨← Json.orDefault? Json.word? 180 skew⟩

end SecuritySettings

structure ArtifactMapSettings where
  /-- The storage context that the entries live in. -/
  context : String := "opensaml::ArtifactMap"
  /-- How long an entry lasts. -/
  ttlSecs : Nat := 180
  deriving DecidableEq, Repr

namespace ArtifactMapSettings

def ttl (s : ArtifactMapSettings) : Duration :=
  .ofSeconds s.ttlSecs

def ofAttributes (attributes : Attributes) : Except Error ArtifactMapSettings := do
  let default : ArtifactMapSettings := {}
  let ttl ← attributes.word? "artifactTTL"
  return ⟨(attributes.string? "context").getD default.context, ttl.getD default.ttlSecs⟩

def ofJson? (j : Json) : Option ArtifactMapSettings := do
  let default : ArtifactMapSettings := {}
  let [context, ttl] ← j.fields? ["context", "artifact_ttl_secs"] 0 | none
  return ⟨← Json.orDefault? Json.string? default.context context,
    ← Json.orDefault? Json.word? default.ttlSecs ttl⟩

end ArtifactMapSettings

/-- What to do with a message that should be checked for replay where there is no replay cache. -/
inductive MissingCache where
  | reject
  | skip
  deriving DecidableEq, Repr

namespace MissingCache

def text : MissingCache → String
  | reject => "reject"
  | skip => "skip"

def ofText? (s : String) : Option MissingCache :=
  if s = "reject" then some reject else if s = "skip" then some skip else none

def ofJson? (j : Json) : Option MissingCache :=
  j.choice? >>= ofText?

/-- Reads the attribute that makes the choice, in either case. -/
def ofAttributes (attributes : Attributes) : Except Error MissingCache :=
  match attributes.chars? "missingReplayCache" with
  | none => .ok reject
  | some value =>
    match ofText? (String.ofList (value.map Char.toLower)) with
    | some choice => .ok choice
    | none => .error (.configuration (.unknownCacheChoice (String.ofList value)))

end MissingCache

structure MessageFlowSettings where
  checkReplay : Bool := true
  /-- How long after its issue a message is acceptable, beyond the clock skew; without a value, as
  long again as the skew. -/
  expiresSecs : Option Nat := none
  missingCache : MissingCache := .reject
  /-- The context that identifiers are recorded under in the replay cache. -/
  replayContext : String := "SAML"
  deriving DecidableEq, Repr

namespace MessageFlowSettings

/-- Reads an attribute map. The first fault in the order of the reading counts. -/
def ofAttributes (attributes : Attributes) : Except Error MessageFlowSettings := do
  let missingCache ← MissingCache.ofAttributes attributes
  let expiresSecs ← attributes.word? "expires"
  return { checkReplay := attributes.bool "checkReplay" true
           expiresSecs := expiresSecs
           missingCache := missingCache }

def ofJson? (j : Json) : Option MessageFlowSettings := do
  let default : MessageFlowSettings := {}
  let [check, expires, missing, context] ←
    j.fields? ["check_replay", "expires_secs", "missing_replay_cache", "replay_context"] 0 | none
  return ⟨← Json.orDefault? Json.bool? default.checkReplay check,
    ← Json.orDefault? (Json.nullable? Json.word?) default.expiresSecs expires,
    ← Json.orDefault? MissingCache.ofJson? default.missingCache missing,
    ← Json.orDefault? Json.string? default.replayContext context⟩

end MessageFlowSettings

structure ClientCertSettings where
  /-- Whether a certificate that is not trusted rejects the message. -/
  errorFatal : Bool := true
  deriving DecidableEq, Repr

namespace ClientCertSettings

def ofAttributes (attributes : Attributes) : ClientCertSettings :=
  ⟨attributes.bool "errorFatal" true⟩

def ofJson? (j : Json) : Option ClientCertSettings := do
  let [fatal] ← j.fields? ["error_fatal"] 0 | none
  return ⟨← Json.orDefault? Json.bool? true fatal⟩

end ClientCertSettings

end Gatehouse
