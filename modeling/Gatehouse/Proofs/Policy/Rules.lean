import Gatehouse.Policy.Evaluation

/-! # What rules learn about the issuer

A rule that does not authenticate everyone can do one of four things to what a policy knows about
the issuer of its messages. Whatever follows from a chain of rules follows from these.
-/

namespace Gatehouse

namespace Policy

variable {p q : Policy} {claimed : Issuer}

/-- A claim that is accepted leaves the policy as it was, or is the first. -/
theorem claimIssuer_ok (accepted : p.claimIssuer claimed = .ok q) :
    (∃ i, p.findings.issuer = some i ∧ p.matching.agrees (some i) (some claimed) ∧ q = p) ∨
      p.findings.issuer = none ∧ (p.requireEntityIssuer → claimed.isEntity) ∧
        q = p.withIssuer claimed := by
  unfold claimIssuer at accepted
  cases known : p.findings.issuer with
  | some i =>
      simp only [known] at accepted
      by_cases same : p.matching.agrees (some i) (some claimed)
      · simp only [same, if_true, Except.ok.injEq] at accepted
        exact .inl ⟨i, rfl, same, accepted.symm⟩
      · simp [same] at accepted
  | none =>
      simp only [known] at accepted
      by_cases refused : (p.requireEntityIssuer && !claimed.isEntity) = true
      · simp [refused] at accepted
      · simp only [refused, Bool.false_eq_true, if_false, Except.ok.injEq] at accepted
        exact .inr ⟨rfl, by simpa using refused, accepted.symm⟩

end Policy

namespace Evaluation

/-- What a rule may have done to what was known about the issuer, given what is known after it. -/
inductive Learns (around : Surroundings) (message : Message) (request : Option Request)
    (p : Policy) (after : Findings) : Prop where
  | nothing
      (issuer : after.issuer = p.findings.issuer)
      (issuerMetadata : after.issuerMetadata = p.findings.issuerMetadata)
      (authenticated : after.authenticated = p.findings.authenticated)
  /-- A first issuer is recorded, with the role that it is found to play. -/
  | issuer (claimed : Issuer)
      (claims : message.issuer = some claimed)
      (unknown : p.findings.issuer = none)
      (entity : p.requireEntityIssuer → claimed.isEntity)
      (issuer : after.issuer = some claimed)
      (issuerMetadata : after.issuerMetadata = metadata? around message claimed p)
      (authenticated : after.authenticated = p.findings.authenticated)
  /-- The role of an issuer that was known without one is looked up by what the message claims. -/
  | metadata (i claimed : Issuer) (role : Role)
      (claims : message.issuer = some claimed)
      (known : p.findings.issuer = some i)
      (agrees : p.matching.agrees (some i) (some claimed))
      (unknown : p.findings.issuerMetadata = none)
      (found : metadata? around message claimed p = some role)
      (issuer : after.issuer = some i)
      (issuerMetadata : after.issuerMetadata = some role)
      (authenticated : after.authenticated = p.findings.authenticated)
  /-- The trust engine has accepted the client's certificate. -/
  | trust (engine : TrustEngine) (question : TrustQuestion)
      (consulted : around.engine = some engine)
      (asked : question? p request = some question)
      (accepted : engine.accepts question)
      (issuer : after.issuer = p.findings.issuer)
      (issuerMetadata : after.issuerMetadata = p.findings.issuerMetadata)
      (authenticated : after.authenticated = true)

theorem extract_learns (around : Surroundings) (message : Message) (request : Option Request)
    (e : Evaluation) :
    Learns around message request e.policy (e.extract around message).2.policy.findings := by
  unfold extract
  cases claims : message.issuer with
  | none => exact .nothing rfl rfl rfl
  | some claimed =>
      simp only
      cases verdict : ((e.policy.withMessageId message.id).withIssued message.issued).claimIssuer
          claimed with
      | error fault => exact .nothing rfl rfl rfl
      | ok q =>
          simp only
          rcases Policy.claimIssuer_ok verdict with ⟨i, known, agrees, rfl⟩ | ⟨unknown, entity, rfl⟩
          · split
            · next role unknown found =>
                exact .metadata i claimed role claims known agrees unknown found known rfl rfl
            · exact .nothing rfl rfl rfl
          · split
            · next role _ found => exact .issuer claimed claims unknown entity rfl found.symm rfl
            · next no =>
                refine .issuer claimed claims unknown entity rfl ?_ rfl
                cases found : metadata? around message claimed e.policy with
                | none => rfl
                | some role => exact absurd found (no role rfl)

theorem recordId_policy (s : MessageFlowSettings) (around : Surroundings) (id : String)
    (expires : Instant) (e : Evaluation) :
    (e.recordId s around id expires).2.policy = e.policy := by
  unfold recordId
  cases e.replays with
  | none => cases s.missingCache <;> rfl
  | some cache =>
      simp only
      split <;> rfl

/-- The flow rule fixes the time of the evaluation. -/
theorem checkFlow_policy (s : MessageFlowSettings) (around : Surroundings) (e : Evaluation) :
    (e.checkFlow s around).2.policy = e.policy.withTime (e.policy.time around.now) := by
  unfold checkFlow
  simp only
  split
  · rfl
  · split
    · rfl
    · split
      · rw [recordId_policy]
        rfl
      · rfl

theorem checkCertificate_learns (s : ClientCertSettings) (around : Surroundings) (message : Message)
    (request : Option Request) (e : Evaluation) :
    Learns around message request e.policy
      (e.checkCertificate s around request).2.policy.findings := by
  unfold checkCertificate
  split
  · next engine question consulted asked =>
      by_cases accepted : engine.accepts question
      · simp only [accepted, if_true]
        exact .trust engine question consulted asked accepted rfl rfl rfl
      · simp only [accepted, Bool.false_eq_true, if_false]
        cases s.errorFatal <;> exact .nothing rfl rfl rfl
  · exact .nothing rfl rfl rfl

/-- Every rule but the one that authenticates everyone learns in one of these ways. -/
theorem apply_learns {rule : Rule} (around : Surroundings) (message : Message)
    (request : Option Request) (e : Evaluation) (checks : rule ≠ .nullSecurity) :
    Learns around message request e.policy
      (e.apply around message request rule).2.policy.findings := by
  cases rule with
  | messageExtraction => exact extract_learns around message request e
  | messageFlow s =>
      simp only [apply, checkFlow_policy]
      exact .nothing rfl rfl rfl
  | clientCertificate s => exact checkCertificate_learns s around message request e
  | ignore name => exact .nothing rfl rfl rfl
  | nullSecurity => exact absurd rfl checks

end Evaluation

end Gatehouse
