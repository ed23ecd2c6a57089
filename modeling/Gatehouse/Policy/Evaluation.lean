import Gatehouse.Message
import Gatehouse.Metadata.Directory
import Gatehouse.Policy.Basic
import Gatehouse.Replay.Cache
import Gatehouse.Request
import Gatehouse.TrustEngine

/-! # Evaluation

Running the rules of a policy against a message and the request that it arrived on. The rules run in
their order, whatever the earlier ones answered, until one rejects the message. A rejection leaves
what was found before it.
-/

namespace Gatehouse

/-- What rules consult and do not change. -/
structure Surroundings where
  /-- What the policy's clock reads. -/
  now : Instant
  /-- What the replay cache's clock reads. The two share one clock unless they are set up apart. -/
  cacheNow : Instant := now
  directory : Option MetadataProvider := none
  engine : Option TrustEngine := none

/-- What rules change: the policy's findings and the replay cache. The questions put to the trust
engine are kept as well, in their order. -/
structure Evaluation where
  policy : Policy
  replays : Option ReplayCache := none
  asked : List TrustQuestion := []

namespace Evaluation

def withPolicy (e : Evaluation) (p : Policy) : Evaluation :=
  { e with policy := p }

/-- The metadata of a message's issuer, looked up by its entity, the policy's role and the message's
protocol. -/
def metadata? (around : Surroundings) (message : Message) (issuer : Issuer) (p : Policy) :
    Option Role := do
  let directory ← around.directory
  let role ← p.role
  let protocol ← message.protocol
  if issuer.isEntity then directory.lookup issuer.name role protocol else none

/-- Takes over the identifier, the issue instant and the issuer of a message, and looks up the
issuer's metadata where none is known. -/
def extract (around : Surroundings) (message : Message) (e : Evaluation) :
    Except Error Bool × Evaluation :=
  let p := (e.policy.withMessageId message.id).withIssued message.issued
  match message.issuer with
  | none => (.ok false, e.withPolicy p)
  | some issuer =>
    match p.claimIssuer issuer with
    | .error fault => (.error fault, e.withPolicy p)
    | .ok p =>
      match p.findings.issuerMetadata, metadata? around message issuer p with
      | none, some role =>
        (.ok false, e.withPolicy
          { p with findings := { p.findings with issuerMetadata := some role } })
      | _, _ => (.ok false, e.withPolicy p)

/-- How long after its issue a message is acceptable, beyond the clock skew. -/
def window (s : MessageFlowSettings) (p : Policy) : Duration :=
  match s.expiresSecs with
  | some n => .ofSeconds n
  | none => p.clockSkew

/-- Refuses an issue instant that is too far from now in either direction. -/
def checkFresh (s : MessageFlowSettings) (p : Policy) (now : Instant) : Except Error Unit :=
  match p.findings.issued with
  | none => .ok ()
  | some issued =>
    if now + p.clockSkew < issued then .error .issuedInFuture
    else if issued < now - p.clockSkew - window s p then .error .messageExpired
    else .ok ()

/-- Records an identifier for as long as the message could be accepted again. -/
def recordId (s : MessageFlowSettings) (around : Surroundings) (id : String) (expires : Instant)
    (e : Evaluation) : Except Error Bool × Evaluation :=
  match e.replays with
  | none =>
    match s.missingCache with
    | .reject => (.error .replayCacheUnavailable, e)
    | .skip => (.ok false, e)
  | some cache =>
    let (answer, cache) := cache.check around.cacheNow ⟨s.replayContext, id⟩ expires
    let e := { e with replays := some cache }
    match answer with
    | .error fault => (.error (.ofStorage fault), e)
    | .ok false => (.error (.replayDetected id), e)
    | .ok true => (.ok true, e)

/-- Checks that the message is fresh and that its identifier, if it has one, is new. -/
def checkFlow (s : MessageFlowSettings) (around : Surroundings) (e : Evaluation) :
    Except Error Bool × Evaluation :=
  let now := e.policy.time around.now
  let e := e.withPolicy (e.policy.withTime now)
  let p := e.policy
  match checkFresh s p now with
  | .error fault => (.error fault, e)
  | .ok () =>
    match p.findings.messageId.filter (!·.isEmpty) with
    | none => (.ok false, e)
    | some id =>
      if s.checkReplay then
        recordId s around id (p.findings.issued.getD now + p.clockSkew + window s p) e
      else (.ok false, e)

/-- What there is to ask a trust engine about a request: whether its client certificate stands for
the issuer. -/
def question? (p : Policy) (request : Option Request) : Option TrustQuestion := do
  let request ← request
  let role ← p.findings.issuerMetadata
  let leaf ← request.clientCertificates.head?
  return { leaf := leaf
           chain := request.clientCertificates
           role := role
           criteria := ⟨p.findings.issuer.map Issuer.name, .tls⟩ }

/-- Authenticates the issuer if the trust engine accepts the client certificate. -/
def checkCertificate (s : ClientCertSettings) (around : Surroundings) (request : Option Request)
    (e : Evaluation) : Except Error Bool × Evaluation :=
  match around.engine, question? e.policy request with
  | some engine, some question =>
    let e := { e with asked := e.asked ++ [question] }
    if engine.accepts question then (.ok true, e.withPolicy (e.policy.withAuthenticated true))
    else if s.errorFatal then
      (.error (.transportCredentialRejected
        ("client certificate not trusted for " ++ question.role.entityId)), e)
    else (.ok false, e)
  | _, _ => (.ok false, e)

/-- Runs one rule. It answers whether its check took place and succeeded, or rejects the message. -/
def apply (around : Surroundings) (message : Message) (request : Option Request) (rule : Rule)
    (e : Evaluation) : Except Error Bool × Evaluation :=
  match rule with
  | .messageExtraction => e.extract around message
  | .messageFlow s => e.checkFlow s around
  | .clientCertificate s => e.checkCertificate s around request
  | .ignore name => (.ok (message.schemaType.getD message.element = name), e)
  | .nullSecurity => (.ok true, e.withPolicy (e.policy.withAuthenticated true))

/-- Runs rules in order until one rejects the message. -/
def applyAll (around : Surroundings) (message : Message) (request : Option Request) :
    List Rule → Evaluation → Except Error Unit × Evaluation
  | [], e => (.ok (), e)
  | rule :: rules, e =>
    match e.apply around message request rule with
    | (.error fault, e) => (.error fault, e)
    | (.ok _, e) => applyAll around message request rules e

def run (around : Surroundings) (message : Message) (request : Option Request) (e : Evaluation) :
    Except Error Unit × Evaluation :=
  applyAll around message request e.policy.rules e

end Evaluation

end Gatehouse
