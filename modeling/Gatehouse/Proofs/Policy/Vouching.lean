import Gatehouse.Proofs.Policy.Authentication
import Gatehouse.Proofs.Policy.Chains

/-! # Who was vouched for

A chain asks the trust engine about the issuer that is known when its certificate rules run. After a
rule has read the header that is the issuer the chain ends with. Before, it may be nobody: if only a
role is known, the engine is asked about that role alone, and an issuer that the message names
afterwards is taken for authenticated without having been asked about.
-/

namespace Gatehouse.Evaluation

/-- Whether a certificate rule stands in a chain before every rule that reads the header. -/
def AsksFirst (rules : List Rule) : Prop :=
  ∃ before s rest, rules = before ++ .clientCertificate s :: rest ∧ .messageExtraction ∉ before

/-- Whether a certificate rule stands in a chain after a rule that reads the header. -/
def AsksLater (rules : List Rule) : Prop :=
  ∃ before s rest, rules = before ++ .clientCertificate s :: rest ∧ .messageExtraction ∈ before

variable {around : Surroundings} {message : Message} {request : Option Request}
  {e after found : Evaluation} {rules before rest : List Rule}

theorem applyAll_settles (ran : applyAll around message request before e = (.ok (), found))
    (reads : .messageExtraction ∈ before) : Settled around message found.policy := by
  induction before generalizing e with
  | nil => cases reads
  | cons rule before ih =>
      obtain ⟨applied, next, answer, onward⟩ := apply_of_applyAll ran
      by_cases later : .messageExtraction ∈ before
      · exact ih onward later
      · -- This is the last rule that reads the header.
        obtain rfl : rule = .messageExtraction :=
          ((List.mem_cons.1 reads).resolve_right later).symm
        have sender := applyAll_sender around message request next later
        have role := applyAll_role around message request before next
        rw [onward] at sender role
        exact (extract_settles answer).congr sender role

/-- Rules that do not read the header leave what is known about the issuer as it was. -/
theorem sender_of_unread (ran : applyAll around message request before e = (.ok (), found))
    (unread : .messageExtraction ∉ before) :
    found.policy.findings.sender = e.policy.findings.sender := by
  have sender := applyAll_sender around message request e unread
  rwa [ran] at sender

/-- So do all rules if the header has nothing to add. -/
theorem sender_of_settled (settled : Settled around message e.policy)
    (accepted : applyAll around message request rules e = (.ok (), after)) :
    after.policy.findings.sender = e.policy.findings.sender := by
  have sender := settled.applyAll request rules
  rwa [accepted] at sender

/-- A certificate rule whose turn comes when the engine accepts the certificate authenticates. -/
theorem step_of_vouched (s : ClientCertSettings)
    (ran : applyAll around message request before e = (.ok (), found))
    (vouched : Vouched around request found.policy.findings) :
    ∃ step ∈ steps around message request (before ++ .clientCertificate s :: rest) e,
      step.Authenticates := by
  have answer : (found.apply around message request (.clientCertificate s)).1 = .ok true :=
    (checkCertificate_ok_true s).2 vouched
  exact ⟨_, steps_mem ran (Prod.ext answer rfl), s, rfl, rfl⟩

/-- A message is accepted as authenticated when a certificate rule found the certificate accepted,
for what was known at the start or for what is known at the end. -/
theorem authenticated_iff (checks : .nullSecurity ∉ rules)
    (accepted : applyAll around message request rules e = (.ok (), after)) :
    after.policy.findings.authenticated = true ↔
      e.policy.findings.authenticated = true ∨
        AsksFirst rules ∧ Vouched around request e.policy.findings ∨
          AsksLater rules ∧ Vouched around request after.policy.findings := by
  have flag := applyAll_authenticated around message request e checks
  rw [accepted] at flag
  rw [flag]
  refine or_congr_right ?_
  constructor
  · rintro ⟨step, mem, s, certificate, applied⟩
    obtain ⟨before, rest, next, same, ran, answer⟩ := mem_steps mem
    rw [certificate, applied] at answer
    rw [certificate] at same
    have vouched : Vouched around request step.found.policy.findings :=
      (checkCertificate_ok_true s).1 (congrArg Prod.fst answer)
    by_cases reads : .messageExtraction ∈ before
    · obtain ⟨found, ran', onward⟩ := applyAll_append (same ▸ accepted)
      obtain rfl : step.found = found := congrArg Prod.snd (ran.symm.trans ran')
      have settled := sender_of_settled (applyAll_settles ran reads) onward
      exact .inr ⟨⟨before, s, rest, same, reads⟩, vouched.congr settled⟩
    · have sender := sender_of_unread ran reads
      exact .inl ⟨⟨before, s, rest, same, reads⟩, vouched.congr sender.symm⟩
  · rintro (⟨⟨before, s, rest, rfl, unread⟩, vouched⟩ | ⟨⟨before, s, rest, rfl, reads⟩, vouched⟩)
    · obtain ⟨found, ran, -⟩ := applyAll_append accepted
      exact step_of_vouched s ran (vouched.congr (sender_of_unread ran unread))
    · obtain ⟨found, ran, onward⟩ := applyAll_append accepted
      have settled := sender_of_settled (applyAll_settles ran reads) onward
      exact step_of_vouched s ran (vouched.congr settled.symm)

/-- What a chain that accepts the message makes of the issuer that it claims, if none was known. -/
theorem applyAll_first {claimed : Issuer} (unknown : e.policy.findings.issuer = none)
    (claims : message.issuer = some claimed) (reads : .messageExtraction ∈ rules)
    (accepted : applyAll around message request rules e = (.ok (), after)) :
    after.policy.findings.sender = (some claimed, metadata? around message claimed e.policy) := by
  obtain ⟨before, rest, rfl, unread⟩ := List.eq_append_cons_of_mem reads
  obtain ⟨found, ran, onward⟩ := applyAll_append accepted
  obtain ⟨applied, next, answer, onward⟩ := apply_of_applyAll onward
  have sender := sender_of_unread ran unread
  have role := applyAll_role around message request before e
  rw [ran] at role
  rw [sender_of_settled (extract_settles answer) onward,
    extract_first ((Prod.mk.inj sender).1.trans unknown) claims answer, metadata?_congr role]

/-- What was vouched for at the start still is at the end, unless nobody was known as the issuer and
the message has named one. -/
theorem vouched_or_first (vouched : Vouched around request e.policy.findings)
    (accepted : applyAll around message request rules e = (.ok (), after)) :
    Vouched around request after.policy.findings ∨
      e.policy.findings.issuer = none ∧ .messageExtraction ∈ rules ∧
        ∃ claimed, message.issuer = some claimed ∧ after.policy.findings.sender =
          (some claimed, metadata? around message claimed e.policy) := by
  have keeps : after.policy.findings.sender = e.policy.findings.sender →
      Vouched around request after.policy.findings := vouched.congr
  have known : e.policy.findings.issuerMetadata ≠ none := by
    obtain ⟨_, _, role, _, _, _, known, _⟩ := vouched
    simp [known]
  by_cases reads : .messageExtraction ∈ rules
  · cases claims : message.issuer with
    | none =>
        have settled : Settled around message e.policy := by
          intro claimed claims'
          cases claims.symm.trans claims'
        exact .inl (keeps (sender_of_settled settled accepted))
    | some claimed =>
        by_cases unknown : e.policy.findings.issuer = none
        · exact .inr ⟨unknown, reads, claimed, rfl, applyAll_first unknown claims reads accepted⟩
        · have settled : Settled around message e.policy :=
            fun _ _ => ⟨unknown, fun missing => absurd missing known⟩
          exact .inl (keeps (sender_of_settled settled accepted))
  · exact .inl (keeps (sender_of_unread accepted reads))

/-- A chain that checks accepts a message for a policy that was not authenticated. The policy is
authenticated afterwards exactly if a certificate rule after the first rule that reads the header
had the engine accept what the chain ends with, or one before it had the engine accept what the
chain began with. The two differ only if no issuer was known and the message has named one: that
issuer counts as authenticated although the engine was asked about the known role alone. -/
theorem authenticated_unasked_iff (unauthenticated : e.policy.findings.authenticated = false)
    (checks : .nullSecurity ∉ e.policy.rules)
    (accepted : e.run around message request = (.ok (), after)) :
    (after.policy.findings.authenticated = true ↔
      AsksFirst e.policy.rules ∧ Vouched around request e.policy.findings ∨
        AsksLater e.policy.rules ∧ Vouched around request after.policy.findings) ∧
    (after.policy.findings.authenticated = true →
      Vouched around request after.policy.findings ∨
        AsksFirst e.policy.rules ∧ Vouched around request e.policy.findings ∧
          e.policy.findings.issuer = none ∧ .messageExtraction ∈ e.policy.rules ∧
            ∃ claimed, message.issuer = some claimed ∧ after.policy.findings.sender =
              (some claimed, metadata? around message claimed e.policy)) := by
  have flag := authenticated_iff checks accepted
  rw [unauthenticated] at flag
  simp only [Bool.false_eq_true, false_or] at flag
  refine ⟨flag, fun authenticated => ?_⟩
  rcases flag.1 authenticated with ⟨first, vouched⟩ | ⟨-, vouched⟩
  · exact (vouched_or_first vouched accepted).imp_right fun exception => ⟨first, vouched, exception⟩
  · exact .inl vouched

open Policy (sampleCall sampleRole)

/-- A client that presents its own certificate, with a message that names another entity, to rules
that ask about the certificate before they read the header. -/
def impostorCall : Call :=
  { sampleCall with
    message := { sampleCall.message with issuer := some (.named "https://other.example") }
    rules := [.clientCertificate {}, .messageExtraction]
    directory := some (Directory.ofList
      [sampleRole, { sampleRole with entityId := "https://other.example", keys := [] }]).provider }

/-- The policy that is asked knows the role of the client, and nobody as the issuer. -/
def impostor : Evaluation where
  policy :=
    { role := some sampleRole.name
      rules := impostorCall.rules
      findings := { issuerMetadata := some sampleRole } }

def impostorRun : Except Error Unit × Evaluation :=
  impostor.run (Policy.surroundings impostorCall) impostorCall.message impostorCall.request

theorem impostorRun_sender : impostorRun.2.policy.findings.sender =
    (some (.named "https://other.example"),
      some { sampleRole with entityId := "https://other.example", keys := [] }) := by
  decide +kernel

theorem impostorRun_not_vouched : ¬ Vouched (Policy.surroundings impostorCall)
    impostorCall.request impostorRun.2.policy.findings := by
  obtain ⟨issuer, issuerMetadata⟩ := Prod.mk.inj impostorRun_sender
  rintro ⟨engine, r, role, leaf, consulted, given, known, first, accepted⟩
  obtain rfl : TrustEngine.explicitKey = engine := Option.some.inj consulted
  obtain rfl := Option.some.inj (issuerMetadata.symm.trans known)
  -- The role of the entity that the message names publishes no key.
  simp [TrustEngine.explicitKey, Role.certificatesFor] at accepted

theorem impostor_vouched_first :
    impostor.policy.findings.authenticated = false ∧ .nullSecurity ∉ impostor.policy.rules ∧
      impostorRun.1 = .ok () ∧ impostorRun.2.policy.findings.authenticated = true ∧
      AsksFirst impostor.policy.rules ∧ Vouched (Policy.surroundings impostorCall)
        impostorCall.request impostor.policy.findings := by
  have checks : .nullSecurity ∉ impostor.policy.rules := by decide
  have accepted : impostorRun.1 = .ok () := by rfl
  have authenticated : impostorRun.2.policy.findings.authenticated = true := by decide +kernel
  have run : impostorRun = (.ok (), impostorRun.2) := Prod.ext accepted rfl
  have verdict := authenticated_unasked_iff rfl checks run
  have exception := (verdict.2 authenticated).resolve_left impostorRun_not_vouched
  exact ⟨rfl, checks, accepted, authenticated, exception.1, exception.2.1⟩

/-- The message is accepted as authenticated although the engine does not accept the certificate for
the issuer that is recorded then. -/
theorem impostor_authenticated :
    impostor.policy.findings.authenticated = false ∧ .nullSecurity ∉ impostor.policy.rules ∧
      impostorRun.1 = .ok () ∧ impostorRun.2.policy.findings.authenticated = true ∧
      ¬ Vouched (Policy.surroundings impostorCall) impostorCall.request
        impostorRun.2.policy.findings :=
  ⟨rfl, by decide, by rfl, by decide +kernel, impostorRun_not_vouched⟩

end Gatehouse.Evaluation
