import Gatehouse.Proofs.Metadata.Directory
import Gatehouse.Proofs.Policy.Vouching
import Gatehouse.Proofs.Policy.Flow

/-! # What the usual chain accepts

Most deployments read the header of a message, check its flow and ask for the client's certificate,
in this order, with published keys and a register in memory. Such a chain accepts a message as
authenticated under conditions that can be read off the message, the request, the roles that are
known and the register.
-/

namespace Gatehouse

/-- A policy that knows nothing yet and has the usual rules. -/
structure Policy.Usual (p : Policy) (flow : MessageFlowSettings) (certificate : ClientCertSettings) :
    Prop where
  rules : p.rules = [.messageExtraction, .messageFlow flow, .clientCertificate certificate]
  checks : flow.checkReplay = true
  untimed : p.findings.time = none
  unnamed : p.findings.issuer = none
  unknown : p.findings.issuerMetadata = none
  unauthenticated : p.findings.authenticated = false

namespace Evaluation

open Directory (sought)

/-- Whether a message names an entity of which a role is known, the first one of the name and
protocol that are called for, and comes with a certificate whose key that role publishes. -/
def Sent (roles : List Role) (name : QualifiedName) (message : Message)
    (request : Option Request) : Prop :=
  ∃ issuer protocol role call leaf, message.issuer = some issuer ∧ issuer.isEntity = true ∧
    message.protocol = some protocol ∧
    roles.find? (sought issuer.name name protocol) = some role ∧
    request = some call ∧ call.clientCertificates.head? = some leaf ∧
    role.Publishes leaf.publicKey

/-- Whether a message is issued neither too early nor too late, if it says when it was. -/
def Timely (now : Instant) (skew window : Duration) (message : Message) : Prop :=
  ∀ issued, message.issued = some issued → now - skew - window ≤ issued ∧ issued ≤ now + skew

/-- Whether all that a register holds of the identifier of a message, if it has one, has expired. -/
def New (r : ReplayRegister) (now : Instant) (context : String) (message : Message) : Prop :=
  ∀ id expires, message.id = some id → id ≠ "" → r.seen.get? ⟨context, id⟩ = some expires →
    expires ≤ now

variable {around : Surroundings} {message : Message} {request : Option Request} {e : Evaluation}
  {r : ReplayRegister} {flow : MessageFlowSettings} {certificate : ClientCertSettings}
  {p : Policy} {roles : List Role} {name : QualifiedName} {now cacheNow : Instant} {issuer : Issuer}
  {role : Role}

/-! ## The header -/

theorem metadata?_eq_some (known : around.directory = some (Directory.ofList roles).provider)
    (plays : p.role = some name) : metadata? around message issuer p = some role ↔
      issuer.isEntity = true ∧ ∃ protocol, message.protocol = some protocol ∧
        roles.find? (sought issuer.name name protocol) = some role := by
  by_cases entity : issuer.isEntity = true
  · simp [metadata?, known, plays, entity, Directory.lookup_ofList, Option.bind_eq_some_iff]
  · simp [metadata?, known, plays, entity]

/-- A message that names no issuer brings no role along. -/
theorem extract_unclaimed (unclaimed : message.issuer = none) :
    (e.extract around message).2.policy.findings.issuerMetadata =
      e.policy.findings.issuerMetadata := by
  simp only [extract, unclaimed]
  rfl

theorem extract_answers (around : Surroundings) (unnamed : e.policy.findings.issuer = none)
    (claims : message.issuer = some issuer) (entity : issuer.isEntity = true) :
    (e.extract around message).1 = .ok false := by
  let p := (e.policy.withMessageId message.id).withIssued message.issued
  have unnamed : p.findings.issuer = none := unnamed
  have accepted : p.claimIssuer issuer = .ok (p.withIssuer issuer) := by
    simp [Policy.claimIssuer, unnamed, entity]
  simp only [extract, claims, p, accepted]
  split <;> rfl

/-- The header rule lets a message pass whose sender the trust engine then accepts exactly if the
message is sent under a published key. -/
theorem sent_iff (around : Surroundings) (message : Message) (request : Option Request)
    (known : around.directory = some (Directory.ofList roles).provider)
    (consults : around.engine = some .explicitKey) (plays : e.policy.role = some name)
    (unnamed : e.policy.findings.issuer = none)
    (unknown : e.policy.findings.issuerMetadata = none) :
    ((∃ applied, (e.extract around message).1 = .ok applied) ∧
      Vouched around request (e.extract around message).2.policy.findings) ↔
        Sent roles name message request := by
  constructor
  · rintro ⟨⟨applied, answer⟩, engine, call, role, leaf, consulted, given, held, first, accepted⟩
    obtain rfl : TrustEngine.explicitKey = engine := Option.some.inj (consults.symm.trans consulted)
    cases claims : message.issuer with
    | none =>
        rw [extract_unclaimed claims, unknown] at held
        cases held
    | some claimed =>
        obtain ⟨issuer, metadata⟩ :=
          Prod.mk.inj (extract_first unnamed claims (Prod.ext answer rfl))
        obtain ⟨entity, protocol, speaks, found⟩ :=
          (metadata?_eq_some known plays).1 (metadata.symm.trans held)
        rw [issuer] at accepted
        exact ⟨claimed, protocol, role, call, leaf, claims, entity, speaks, found, given, first,
          (Policy.explicitKey_accepts rfl accepted).2⟩
  · rintro ⟨claimed, protocol, role, call, leaf, claims, entity, speaks, found, given, first,
      publishes⟩
    have answer := extract_answers around unnamed claims entity
    obtain ⟨issuer, metadata⟩ := Prod.mk.inj (extract_first unnamed claims (Prod.ext answer rfl))
    have held := (metadata?_eq_some known plays).2 ⟨entity, protocol, speaks, found⟩
    have named : role.entityId = claimed.name := (Directory.sought_iff.1 (List.find?_some found)).1
    refine ⟨⟨false, answer⟩, .explicitKey, call, role, leaf, consults, given,
      metadata.trans held, first, ?_⟩
    rw [issuer]
    simpa [TrustEngine.explicitKey, named] using Role.publishes_iff.1 publishes

/-! ## The flow -/

/-- After the header is read, the flow rule lets a timely message pass if it is new. -/
theorem flow_answers_iff (memory : e.replays = some (.memory r)) (checks : flow.checkReplay = true)
    (untimed : e.policy.findings.time = none) :
    (∃ applied, ((e.extract around message).2.checkFlow flow around).1 = .ok applied) ↔
      Timely around.now e.policy.clockSkew (window flow e.policy) message ∧
        New r around.cacheNow flow.replayContext message := by
  obtain ⟨issuer, role, same⟩ := extract_frame around message e
  have left : (e.extract around message).2.replays = some (.memory r) := by
    rw [same]
    exact memory
  rw [checkFlow_answers_iff left checks, checkFresh_eq_ok, same]
  simp only [checkedId?_eq_some, ReplayRegister.holds_eq_false_iff, withPolicy, Policy.time, untimed]
  refine and_congr Iff.rfl ?_
  exact ⟨fun free id expires named filled => free id ⟨named, filled⟩ expires,
    fun free id named expires => free id expires named.1 named.2⟩

/-! ## The chain -/

/-- The usual chain ends well if each of its rules does. -/
theorem usual_ends_iff (usual : e.policy.Usual flow certificate) :
    ((e.run around message request).1 = .ok () ∧
      (e.run around message request).2.policy.findings.authenticated = true) ↔
    (∃ applied, (e.extract around message).1 = .ok applied) ∧
      (∃ applied, ((e.extract around message).2.checkFlow flow around).1 = .ok applied) ∧
        Vouched around request (e.extract around message).2.policy.findings := by
  let read := (e.extract around message).2
  let checked := (read.checkFlow flow around).2
  -- Neither of the first two rules authenticates, and the second learns nothing of the sender.
  have flag : checked.policy.findings.authenticated = false := by
    obtain ⟨issuer, role, same⟩ := extract_frame around message e
    simp only [checked, checkFlow_policy, read, same]
    exact usual.unauthenticated
  have sender : checked.policy.findings.sender = read.policy.findings.sender := by
    simp only [checked, checkFlow_policy]
    rfl
  have split : ∀ after, e.run around message request = (.ok (), after) ↔
      (∃ applied, (e.extract around message).1 = .ok applied) ∧
        (∃ applied, (read.checkFlow flow around).1 = .ok applied) ∧
          (∃ applied, (checked.checkCertificate certificate around request).1 = .ok applied) ∧
            (checked.checkCertificate certificate around request).2 = after := by
    intro after
    rw [run, usual.rules, applyAll_ok_iff, applyAll_ok_iff, applyAll_ok_iff]
    simp [applyAll, apply, read, checked]
  constructor
  · rintro ⟨accepted, authenticated⟩
    have ran : e.run around message request = (.ok (), (e.run around message request).2) :=
      Prod.ext accepted rfl
    obtain ⟨reads, flows, -, last⟩ := (split _).1 ran
    simp only [← last, checkCertificate_authenticated, flag] at authenticated
    have vouched := (checkCertificate_ok_true certificate).1 (authenticated.resolve_left (by simp))
    exact ⟨reads, flows, vouched.congr sender.symm⟩
  · rintro ⟨reads, flows, vouched⟩
    have answer := (checkCertificate_ok_true certificate).2 (vouched.congr sender)
    rw [(split _).2 ⟨reads, flows, ⟨true, answer⟩, rfl⟩]
    exact ⟨rfl, (checkCertificate_authenticated certificate).2 (.inr answer)⟩

/-- A policy with the usual rules accepts a message as authenticated if and only if the message is
sent under a key that its issuer publishes, timely by the policy's clock, and new to the register by
the register's clock, which may be the same one. -/
theorem usual_accepts_iff (usual : p.Usual flow certificate) (plays : p.role = some name)
    (asked : List TrustQuestion) :
    let result := run ⟨now, cacheNow, some (Directory.ofList roles).provider, some .explicitKey⟩
      message request ⟨p, some (.memory r), asked⟩
    (result.1 = .ok () ∧ result.2.policy.findings.authenticated = true) ↔
      Sent roles name message request ∧ Timely now p.clockSkew (window flow p) message ∧
        New r cacheNow flow.replayContext message := by
  intro result
  let e : Evaluation := ⟨p, some (.memory r), asked⟩
  let around : Surroundings :=
    ⟨now, cacheNow, some (Directory.ofList roles).provider, some .explicitKey⟩
  rw [usual_ends_iff (e := e) usual, flow_answers_iff rfl usual.checks usual.untimed,
    ← sent_iff (e := e) around message request rfl rfl plays usual.unnamed usual.unknown]
  exact ⟨fun ⟨reads, flows, vouched⟩ => ⟨⟨reads, vouched⟩, flows⟩,
    fun ⟨⟨reads, vouched⟩, flows⟩ => ⟨reads, flows, vouched⟩⟩

open Policy (sampleCall sampleRole)

/-- A message as old as it may be. -/
def oldMessage : Message :=
  { sampleCall.message with id := some "_m1", issued := some (.ofSecond (-360)) }

def usualPolicy : Policy where
  role := some sampleRole.name
  rules := [.messageExtraction, .messageFlow {}, .clientCertificate {}]

theorem usualPolicy_usual : usualPolicy.Usual {} {} := by
  constructor <;> rfl

def oldRun : Except Error Unit × Evaluation :=
  run ⟨.ofSecond 0, .ofSecond 0, some (Directory.ofList [sampleRole]).provider, some .explicitKey⟩
    oldMessage sampleCall.request ⟨usualPolicy, some (.memory (.empty {})), []⟩

theorem oldMessage_accepted :
    usualPolicy.Usual {} {} ∧ usualPolicy.role = some sampleRole.name ∧
      (oldRun.1 = .ok () ∧ oldRun.2.policy.findings.authenticated = true) ∧
      Sent [sampleRole] sampleRole.name oldMessage sampleCall.request ∧
      Timely (.ofSecond 0) usualPolicy.clockSkew (window {} usualPolicy) oldMessage ∧
      New (.empty {}) (.ofSecond 0) "SAML" oldMessage := by
  have accepted : oldRun.1 = .ok () ∧ oldRun.2.policy.findings.authenticated = true :=
    ⟨by rfl, by decide +kernel⟩
  exact ⟨usualPolicy_usual, rfl, accepted,
    (usual_accepts_iff usualPolicy_usual rfl []).1 accepted⟩

end Evaluation

end Gatehouse
