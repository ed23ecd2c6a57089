import Gatehouse.Proofs.Policy.Acceptance
import Gatehouse.Proofs.Policy.Recorded

/-! # Whose role is recorded

The rules look a role up under the name that a message claims, which is not always the name of the
issuer on record: the claim may be a later one that only agrees with it. The role belongs to the
issuer on record in every history if, and only if, the comparison that is installed tells entities
of different names apart.
-/

namespace Gatehouse

open Directory (sought)

namespace Policy

/-- Whether an action leaves it to the rules to find the issuer's role, among roles that have been
added to a directory. -/
def Action.LeavesRole : Action → Prop
  | .claimIssuer _ | .claimIssuerName _ | .setRules _ | .reset _ => True
  | .evaluate around _ _ _ => ∃ roles, around.directory = some (Directory.ofList roles).provider
  | _ => False

/-- Whether an issuer is claimed by a message that is evaluated. -/
def ClaimedIn (actions : List Action) (i : Issuer) : Prop :=
  ∃ around message request replays, .evaluate around message request replays ∈ actions ∧
    message.issuer = some i

/-- Whether the role on record is one that the issuer on record plays. -/
def Belongs (p : Policy) : Prop :=
  ∀ r, p.findings.issuerMetadata = some r →
    ∃ i, p.findings.issuer = some i ∧ r.entityId = i.name ∧ p.role = some r.name

/-- Whether the role on record is one that the entity plays which has been claimed, as the issuer on
record or as one that agrees with it. -/
def Traced (claims : Issuer → Prop) (p : Policy) : Prop :=
  ∀ r, p.findings.issuerMetadata = some r →
    ∃ i claimed, p.findings.issuer = some i ∧ claims claimed ∧ claimed.isEntity = true ∧
      r.entityId = claimed.name ∧ p.role = some r.name ∧
      (claimed = i ∨ p.matching.agrees (some i) (some claimed) = true)

/-- Whether a comparison tells apart the entities that a policy can come across. -/
def TellsApart (p : Policy) : Prop :=
  ∀ a b, (p.requireEntityIssuer = true → a.isEntity = true) → b.isEntity = true →
    p.matching.agrees (some a) (some b) = true → b.name = a.name

variable {p q : Policy} {claims : Issuer → Prop} {after : Findings} {action : Action}
  {actions : List Action} {around : Surroundings} {message : Message} {request : Option Request}
  {name : QualifiedName} {roles : List Role} {r : Role} {i claimed : Issuer}

/-- A role that is found for a claim is one that the claimed entity plays. -/
theorem found_role (plays : p.role = some name)
    (known : around.directory = some (Directory.ofList roles).provider)
    (found : Evaluation.metadata? around message claimed p = some r) :
    claimed.isEntity = true ∧ r.entityId = claimed.name ∧ p.role = some r.name := by
  obtain ⟨entity, protocol, _, first⟩ := (Evaluation.metadata?_eq_some known plays).1 found
  obtain ⟨entityId, named, _⟩ := Directory.sought_iff.1 (List.find?_some first)
  exact ⟨entity, entityId, plays.trans (congrArg some named.symm)⟩

theorem Traced.congr (t : Traced claims p) (sender : after.sender = p.findings.sender) :
    Traced claims { p with findings := after } := by
  obtain ⟨issuer, issuerMetadata⟩ := Prod.mk.inj sender
  intro r known
  obtain ⟨i, claimed, recorded, rest⟩ := t r (issuerMetadata.symm.trans known)
  exact ⟨i, claimed, issuer.trans recorded, rest⟩

theorem Traced.learns (t : Traced claims p) (plays : p.role = some name)
    (known : around.directory = some (Directory.ofList roles).provider)
    (claimedBy : ∀ claimed, message.issuer = some claimed → claims claimed)
    (l : Evaluation.Learns around message request p after) :
    Traced claims { p with findings := after } := by
  cases l with
  | nothing issuer issuerMetadata _ => exact t.congr (Prod.ext issuer issuerMetadata)
  | issuer claimed claims' unknown _ issuer issuerMetadata =>
      intro r held
      obtain ⟨entity, entityId, named⟩ := found_role plays known (issuerMetadata.symm.trans held)
      exact ⟨claimed, claimed, issuer, claimedBy claimed claims', entity, entityId, named, .inl rfl⟩
  | metadata i claimed role claims' _ agrees _ found issuer issuerMetadata =>
      intro r held
      obtain rfl : role = r := Option.some.inj (issuerMetadata.symm.trans held)
      obtain ⟨entity, entityId, named⟩ := found_role plays known found
      exact ⟨i, claimed, issuer, claimedBy claimed claims', entity, entityId, named, .inr agrees⟩
  | trust _ _ _ _ _ issuer issuerMetadata => exact t.congr (Prod.ext issuer issuerMetadata)

theorem Traced.apply {e : Evaluation} (t : Traced claims e.policy)
    (plays : e.policy.role = some name)
    (known : around.directory = some (Directory.ofList roles).provider)
    (claimedBy : ∀ claimed, message.issuer = some claimed → claims claimed)
    (request : Option Request) (rule : Rule) :
    Traced claims (e.apply around message request rule).2.policy := by
  rw [Evaluation.apply_frame]
  by_cases checks : rule = .nullSecurity
  · rw [checks]
    exact t.congr rfl
  · exact t.learns plays known claimedBy (Evaluation.apply_learns around message request e checks)

/-- An issuer that is recorded takes every role away. -/
theorem traced_withIssuer (p : Policy) (i : Issuer) : Traced claims (p.withIssuer i) := by
  intro r held
  cases held

/-- A policy that is used so keeps what decides about its role and its issuer. -/
theorem perform_frame (leaves : action.LeavesRole) : ∃ rules findings,
    p.perform action = { p with rules := rules, findings := findings } := by
  have claims := perform_claims
    (P := fun q => ∃ rules findings, q = { p with rules := rules, findings := findings })
    ⟨_, _, rfl⟩ fun i _ _ => ⟨_, _, rfl⟩
  cases action with
  | claimIssuer issuer => exact claims.1 issuer
  | claimIssuerName name => exact claims.2 name
  | setRules rules => exact ⟨_, _, rfl⟩
  | reset keepIssuer => exact ⟨_, _, rfl⟩
  | evaluate around message request replays =>
      obtain ⟨findings, same⟩ := perform_evaluate p around message request replays
      exact ⟨p.rules, findings, same⟩
  | _ => exact leaves.elim

theorem Traced.perform (t : Traced claims p) (plays : p.role = some name)
    (leaves : action.LeavesRole) (claimedBy : ∀ claimed, ClaimedIn [action] claimed → claims claimed) :
    Traced claims (p.perform action) := by
  have stated := perform_claims (P := Traced claims) t fun i _ _ => traced_withIssuer p i
  cases action with
  | claimIssuer issuer => exact stated.1 issuer
  | claimIssuerName name => exact stated.2 name
  | setRules rules => exact t
  | reset keepIssuer =>
      cases keepIssuer with
      | true => exact t
      | false =>
          intro r held
          cases held
  | evaluate around message request replays =>
      obtain ⟨roles, known⟩ := leaves
      have made : ∀ claimed, message.issuer = some claimed → claims claimed := by
        intro claimed claims'
        exact claimedBy claimed ⟨around, message, request, replays, List.mem_singleton_self _, claims'⟩
      refine And.right (Evaluation.applyAll_keeps
        (P := fun found => found.policy.role = some name ∧ Traced claims found.policy) ?_ ⟨plays, t⟩)
      intro rule _ found ⟨plays, t⟩
      exact ⟨(Evaluation.apply_role around message request rule found).trans plays,
        t.apply plays known made request rule⟩
  | _ => exact leaves.elim

/-! ## Histories -/

theorem performAll_frame (leaves : ∀ action ∈ actions, action.LeavesRole) : ∃ rules findings,
    p.performAll actions = { p with rules := rules, findings := findings } := by
  refine performAll_keeps (P := fun q => ∃ rules findings, q = { p with rules, findings }) ?_
    ⟨_, _, rfl⟩
  intro action mem q ⟨rules, findings, same⟩
  obtain ⟨rules', findings', next⟩ := perform_frame (p := q) (leaves action mem)
  rw [next, same]
  exact ⟨_, _, rfl⟩

theorem traced_performAll (new : p.findings = {}) (plays : p.role = some name)
    (leaves : ∀ action ∈ actions, action.LeavesRole) :
    Traced (ClaimedIn actions) (p.performAll actions) := by
  refine And.right (performAll_keeps
    (P := fun q => q.role = some name ∧ Traced (ClaimedIn actions) q) ?_ ⟨plays, ?_⟩)
  · intro action mem q ⟨plays, t⟩
    obtain ⟨rules, findings, same⟩ := perform_frame (p := q) (leaves action mem)
    refine ⟨by rw [same]; exact plays, t.perform plays (leaves action mem) ?_⟩
    intro claimed ⟨around, message, request, replays, here, claims⟩
    obtain rfl := List.mem_singleton.1 here
    exact ⟨around, message, request, replays, mem, claims⟩
  · intro r held
    rw [new] at held
    cases held

/-- A caller names an issuer, and a message then names another one that only agrees with it. -/
def namesake (name : QualifiedName) (a b : Issuer) : List Action :=
  [.setRules [.messageExtraction], .claimIssuer a,
    .evaluate
      { now := .ofSecond 0
        directory := some (Directory.ofList [⟨b.name, name, ["SAML"], []⟩]).provider }
      ⟨name, none, none, none, some b, some "SAML"⟩ none none]

theorem namesake_sender {a b : Issuer} (new : p.findings = {}) (plays : p.role = some name)
    (allowed : p.requireEntityIssuer = true → a.isEntity = true) (entity : b.isEntity = true)
    (agrees : p.matching.agrees (some a) (some b) = true) :
    (p.performAll (namesake name a b)).findings.sender =
      (some a, some ⟨b.name, name, ["SAML"], []⟩) := by
  have accepted : ¬ (p.requireEntityIssuer = true ∧ a.isEntity = false) := by
    intro ⟨required, other⟩
    cases other.symm.trans (allowed required)
  simp [performAll, namesake, perform, claimIssuer, new, accepted, Except.toOption, withIssuer,
    Evaluation.run, Evaluation.applyAll, Evaluation.apply, Evaluation.extract, withMessageId,
    withIssued, agrees, Evaluation.metadata?, plays, entity, Directory.lookup_ofList,
    sought, Role.supports, Evaluation.withPolicy, Findings.sender]

theorem tellsApart_standard (compares : p.matching = .standard) : p.TellsApart := by
  intro a b _ _ agrees
  rw [compares] at agrees
  simp only [IssuerMatching.standard, IssuerMatching.strictAgrees, Bool.and_eq_true,
    decide_eq_true_eq] at agrees
  exact agrees.1.1.1.symm

/-- In a history of a new policy that leaves the role to the rules, the role on record was looked up
under the name of an entity that a message has claimed, which is the issuer on record or agrees with
it. It belongs to the issuer on record in all of these histories exactly if the comparison tells
apart the entities that can come up. -/
theorem role_belongs_iff_tellsApart (new : p.findings = {}) (plays : p.role = some name) :
    (∀ actions : List Action, (∀ action ∈ actions, action.LeavesRole) →
      Traced (ClaimedIn actions) (p.performAll actions)) ∧
    ((∀ actions : List Action, (∀ action ∈ actions, action.LeavesRole) →
      (p.performAll actions).Belongs) ↔ p.TellsApart) := by
  refine ⟨fun actions leaves => traced_performAll new plays leaves, ?_, ?_⟩
  · intro belongs a b allowed entity agrees
    obtain ⟨issuer, role⟩ := Prod.mk.inj (namesake_sender new plays allowed entity agrees)
    have leaves : ∀ action ∈ namesake name a b, action.LeavesRole := by
      simp only [namesake, List.forall_mem_cons, Action.LeavesRole, true_and]
      exact ⟨⟨[⟨b.name, name, ["SAML"], []⟩], rfl⟩, List.forall_mem_nil _⟩
    obtain ⟨i, recorded, same, _⟩ := belongs (namesake name a b) leaves _ role
    obtain rfl : a = i := Option.some.inj (issuer.symm.trans recorded)
    exact same
  · intro apart actions leaves r held
    obtain ⟨i, claimed, recorded, _, entity, entityId, named, origin⟩ :=
      traced_performAll new plays leaves r held
    refine ⟨i, recorded, ?_, named⟩
    rcases origin with rfl | agrees
    · exact entityId
    · obtain ⟨rules, findings, same⟩ := performAll_frame (p := p) leaves
      have allowed : p.requireEntityIssuer = true → i.isEntity = true := by
        intro required
        exact (entityOnly_performAll new required fun drops => leaves _ drops).2 i recorded
      rw [same] at agrees
      exact entityId.trans (apart i claimed allowed entity agrees)

/-- A caller names an issuer, and a message then names one that may agree with it. -/
def sampleClaims (i : Issuer) : List Action :=
  [.setRules [.messageExtraction], .claimIssuer i,
    .evaluate (surroundings sampleCall) sampleCall.message none none]

theorem sampleClaims_leave (i : Issuer) : ∀ action ∈ sampleClaims i, action.LeavesRole := by
  simp only [sampleClaims, List.forall_mem_cons, Action.LeavesRole, true_and]
  exact ⟨⟨[sampleRole], rfl⟩, List.forall_mem_nil _⟩

/-- A new policy that expects the role of the sample and compares issuers in a given way. -/
def comparing (matching : IssuerMatching) : Policy :=
  { role := some sampleRole.name, matching := matching }

/-- The message's claim, which only agrees with the one on record, brings the right role along. -/
theorem standard_role_belongs :
    (comparing .standard).findings = {} ∧ (comparing .standard).role = some sampleRole.name ∧
      ((comparing .standard).performAll (sampleClaims (.entity "https://idp.example"))).findings.sender =
        (some (.entity "https://idp.example"), some sampleRole) ∧
      ((comparing .standard).performAll (sampleClaims (.entity "https://idp.example"))).Belongs := by
  have belongs := (role_belongs_iff_tellsApart (p := comparing .standard) rfl rfl).2.2
    (tellsApart_standard rfl)
  exact ⟨rfl, rfl, by decide +kernel, belongs _ (sampleClaims_leave _)⟩

/-- Where case does not count, the role of one entity is recorded for another. -/
theorem ignoringCase_role_strays :
    (∀ action ∈ sampleClaims (.named "https://IDP.example"), action.LeavesRole) ∧
      ((comparing .ignoringCase).performAll
        (sampleClaims (.named "https://IDP.example"))).findings.sender =
          (some (.named "https://IDP.example"), some sampleRole) ∧
      ¬ ((comparing .ignoringCase).performAll
        (sampleClaims (.named "https://IDP.example"))).Belongs := by
  have sender : ((comparing .ignoringCase).performAll
      (sampleClaims (.named "https://IDP.example"))).findings.sender =
        (some (.named "https://IDP.example"), some sampleRole) := by
    decide +kernel
  refine ⟨sampleClaims_leave _, sender, ?_⟩
  intro belongs
  obtain ⟨issuer, role⟩ := Prod.mk.inj sender
  obtain ⟨i, recorded, same, _⟩ := belongs sampleRole role
  obtain rfl := Option.some.inj (issuer.symm.trans recorded)
  exact absurd same (by decide)

end Policy

end Gatehouse
