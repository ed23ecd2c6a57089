import Gatehouse.Proofs.Policy.Actions
import Gatehouse.Proofs.Policy.Authentication
import Gatehouse.Proofs.Policy.Flow

/-! # What a policy forgets

Rules read some of the settings of a policy and what has been found about the message. A policy that
has been told to forget everything therefore evaluates the next message as a new one with the same
settings would, whatever has been done with it.
-/

namespace Gatehouse

/-- The policy with the settings that no rule reads as another policy has them. -/
def Policy.dressed (p q : Policy) : Policy :=
  { p with
    validating := q.validating, audiences := q.audiences, correlationId := q.correlationId
    rules := q.rules }

def Evaluation.dressed (e : Evaluation) (q : Policy) : Evaluation :=
  e.withPolicy (e.policy.dressed q)

namespace Evaluation

/-- What there is to see of an evaluation: its result, what it has found, the replay cache and the
questions that it has put. -/
def outcome (ended : Except Error Unit × Evaluation) :
    Except Error Unit × Findings × Option ReplayCache × List TrustQuestion :=
  (ended.1, ended.2.policy.findings, ended.2.replays, ended.2.asked)

variable (around : Surroundings) (message : Message) (request : Option Request) (e : Evaluation)
  (q : Policy)

theorem claimIssuer_dressed (p : Policy) (claimed : Issuer) :
    (p.dressed q).claimIssuer claimed = (p.claimIssuer claimed).map fun p => p.dressed q := by
  unfold Policy.claimIssuer
  simp only [Policy.dressed]
  cases p.findings.issuer with
  | none =>
      by_cases refused : (p.requireEntityIssuer && !claimed.isEntity) = true
      · simp only [refused, if_true]
        rfl
      · simp only [refused, Bool.false_eq_true, if_false]
        rfl
  | some existing =>
      by_cases same : p.matching.agrees (some existing) (some claimed) = true
      · simp only [same, if_true]
        rfl
      · simp only [same, Bool.false_eq_true, if_false]
        rfl

theorem extract_dressed : (e.dressed q).extract around message =
    (e.extract around message).map id fun e => e.dressed q := by
  have header : ((e.dressed q).policy.withMessageId message.id).withIssued message.issued =
      ((e.policy.withMessageId message.id).withIssued message.issued).dressed q := rfl
  unfold extract
  rw [header]
  cases message.issuer with
  | none => rfl
  | some claimed =>
      simp only [claimIssuer_dressed]
      cases ((e.policy.withMessageId message.id).withIssued message.issued).claimIssuer claimed with
      | error fault => rfl
      | ok p =>
          simp only [Except.map]
          have same : metadata? around message claimed (p.dressed q) =
              metadata? around message claimed p := rfl
          rw [same]
          cases known : p.findings.issuerMetadata with
          | some role =>
              simp only [Policy.dressed, known]
              rfl
          | none =>
              simp only [Policy.dressed, known]
              cases metadata? around message claimed p <;> rfl

theorem recordId_dressed (s : MessageFlowSettings) (messageId : String) (expires : Instant) :
    (e.dressed q).recordId s around messageId expires =
      (e.recordId s around messageId expires).map id fun e => e.dressed q := by
  have same : (e.dressed q).replays = e.replays := rfl
  unfold recordId
  rw [same]
  cases e.replays with
  | none => cases s.missingCache <;> rfl
  | some cache =>
      simp only
      cases (cache.check around.cacheNow ⟨s.replayContext, messageId⟩ expires).1 with
      | error fault => rfl
      | ok new => cases new <;> rfl

theorem checkFlow_dressed (s : MessageFlowSettings) : (e.dressed q).checkFlow s around =
    (e.checkFlow s around).map id fun e => e.dressed q := by
  have now : (e.dressed q).policy.time around.now = e.policy.time around.now := rfl
  have fresh : checkFresh s (e.dressed q).policy (e.policy.time around.now) =
      checkFresh s e.policy (e.policy.time around.now) := rfl
  have named : checkedId? (e.dressed q).policy = checkedId? e.policy := rfl
  rw [checkFlow_eq, checkFlow_eq, now, fresh, named]
  cases checkFresh s e.policy (e.policy.time around.now) with
  | error fault => rfl
  | ok _ =>
      cases checkedId? e.policy with
      | none => rfl
      | some messageId =>
          by_cases checks : s.checkReplay = true
          · simp only [checks, if_true]
            exact recordId_dressed around (e.withPolicy (e.policy.withTime _)) q s messageId
              (keptUntil s around e.policy)
          · simp only [checks, Bool.false_eq_true, if_false]
            rfl

theorem checkCertificate_dressed (s : ClientCertSettings) :
    (e.dressed q).checkCertificate s around request =
      (e.checkCertificate s around request).map id fun e => e.dressed q := by
  have same : question? (e.dressed q).policy request = question? e.policy request := rfl
  unfold checkCertificate
  rw [same]
  cases around.engine with
  | none => rfl
  | some engine =>
      cases question? e.policy request with
      | none => rfl
      | some question =>
          by_cases accepted : engine.accepts question = true
          · simp only [accepted, if_true]
            rfl
          · simp only [accepted, Bool.false_eq_true, if_false]
            cases s.errorFatal <;> rfl

theorem apply_dressed (rule : Rule) : (e.dressed q).apply around message request rule =
    (e.apply around message request rule).map id fun e => e.dressed q := by
  cases rule with
  | messageExtraction => exact extract_dressed around message e q
  | messageFlow s => exact checkFlow_dressed around e q s
  | clientCertificate s => exact checkCertificate_dressed around request e q s
  | ignore name => rfl
  | nullSecurity => rfl

/-- Settings that no rule reads stay out of an evaluation, and come out of it as they were. -/
theorem applyAll_dressed (rules : List Rule) :
    applyAll around message request rules (e.dressed q) =
      (applyAll around message request rules e).map id fun e => e.dressed q := by
  induction rules generalizing e with
  | nil => rfl
  | cons rule rules ih =>
      have dressed := apply_dressed around message request e q rule
      rcases answer : e.apply around message request rule with ⟨fault | applied, next⟩
      · rw [answer] at dressed
        rw [applyAll_of_rejection answer, applyAll_of_rejection dressed]
        rfl
      · rw [answer] at dressed
        rw [applyAll_of_answer answer, applyAll_of_answer dressed]
        exact ih next

end Evaluation

namespace Policy

open Evaluation (outcome)

/-- Whether two policies agree in the settings that evaluations depend on. -/
structure SameSettings (p q : Policy) : Prop where
  role : p.role = q.role
  security : p.security = q.security
  requireEntityIssuer : p.requireEntityIssuer = q.requireEntityIssuer
  matching : p.matching = q.matching
  rules : p.rules = q.rules

/-- A new policy with the settings of another that evaluations depend on. -/
def anew (p : Policy) : Policy where
  role := p.role
  security := p.security
  requireEntityIssuer := p.requireEntityIssuer
  matching := p.matching
  rules := p.rules

/-- What there is to see when a policy evaluates a message, with a replay cache as it is by then. -/
def evaluated (p : Policy) (around : Surroundings) (message : Message) (request : Option Request)
    (replays : Option ReplayCache) :
    Except Error Unit × Findings × Option ReplayCache × List TrustQuestion :=
  outcome (Evaluation.run around message request ⟨p, replays, []⟩)

variable {p q : Policy}

/-- What there is to see depends on the settings that rules read and on what has been found. -/
theorem evaluated_congr (same : SameSettings p q) (findings : p.findings = q.findings)
    (around : Surroundings) (message : Message) (request : Option Request)
    (replays : Option ReplayCache) :
    q.evaluated around message request replays = p.evaluated around message request replays := by
  have dressed : p.dressed q = q := by
    obtain ⟨role, security, required, matching, _⟩ := same
    simp only [Policy.dressed, role, security, required, matching, findings]
  have ran := Evaluation.applyAll_dressed around message request ⟨p, replays, []⟩ q q.rules
  simp only [Evaluation.dressed, Evaluation.withPolicy, dressed] at ran
  simp only [evaluated, Evaluation.run, same.rules, ran]
  rfl

theorem sameSettings_anew (p : Policy) : SameSettings p p.anew :=
  ⟨rfl, rfl, rfl, rfl, rfl⟩

theorem SameSettings.reset (same : SameSettings p q) (keepIssuer keepIssuer' : Bool) :
    SameSettings (p.reset keepIssuer) (q.reset keepIssuer') :=
  ⟨same.role, same.security, same.requireEntityIssuer, same.matching, same.rules⟩

/-- Two policies may have been put to any use. Once both have the same settings and are told to
forget everything, they evaluate a message alike, on the same surroundings and replay cache: with
the same result, findings, cache and questions, which are those of a new policy. -/
theorem reset_erases_history (start start' : Policy) (past past' : List Action)
    (same : SameSettings (start.performAll past) (start'.performAll past'))
    (around : Surroundings) (message : Message) (request : Option Request)
    (replays : Option ReplayCache) :
    let p := (start.performAll past).perform (.reset false)
    let p' := (start'.performAll past').perform (.reset false)
    p.evaluated around message request replays = p'.evaluated around message request replays ∧
      p.evaluated around message request replays =
        (start.performAll past).anew.evaluated around message request replays := by
  intro p p'
  constructor
  · exact (evaluated_congr (same.reset false false) rfl around message request replays).symm
  · have new : SameSettings p (start.performAll past).anew := sameSettings_anew _
    exact (evaluated_congr new rfl around message request replays).symm

def samplePolicy : Policy :=
  { role := some sampleRole.name, rules := sampleCall.rules }

/-- A message is authenticated, and the time is put off. -/
def sampleUse : List Action :=
  [.evaluate (surroundings sampleCall) sampleCall.message sampleCall.request none,
    .setTime (.ofSecond 1000)]

/-- Another issuer and its role are recorded, and settings change that no rule reads. -/
def otherUse : List Action :=
  [.claimIssuerName "https://other.example",
    .setIssuerMetadata (some { sampleRole with entityId := "https://other.example" }),
    .configure { samplePolicy with audiences := ["https://sp.example"], validating := false }]

theorem sampleUse_erased :
    SameSettings (samplePolicy.performAll sampleUse) (samplePolicy.performAll otherUse) ∧
      (samplePolicy.performAll sampleUse).findings.authenticated = true ∧
      (samplePolicy.performAll otherUse).findings.authenticated = false ∧
      ((samplePolicy.performAll sampleUse).perform (.reset false)).evaluated
          (surroundings sampleCall) sampleCall.message sampleCall.request none =
        ((samplePolicy.performAll otherUse).perform (.reset false)).evaluated
          (surroundings sampleCall) sampleCall.message sampleCall.request none := by
  have same : SameSettings (samplePolicy.performAll sampleUse)
      (samplePolicy.performAll otherUse) := by
    obtain ⟨findings, same⟩ := perform_evaluate samplePolicy (surroundings sampleCall)
      sampleCall.message sampleCall.request none
    simp only [performAll, sampleUse, List.foldl, same]
    exact ⟨rfl, rfl, rfl, rfl, rfl⟩
  refine ⟨same, by decide +kernel, by decide +kernel, ?_⟩
  exact (reset_erases_history samplePolicy samplePolicy sampleUse otherUse same
    (surroundings sampleCall) sampleCall.message sampleCall.request none).1

end Policy

end Gatehouse
