import Gatehouse.Proofs.Policy.Actions
import Gatehouse.Proofs.Policy.Authentication
import Mathlib.Data.List.Induction

/-! # What stays on record

The first issuer that is recorded stays, and so does the first role, until the policy is told to
forget them. Only the arrival of an issuer where there was none takes a role away: it belonged to
nobody who is known.
-/

namespace Gatehouse

/-- From one state of the findings to a later one, the issuer stays, and the role stays with it. -/
structure Findings.Keeps (f g : Findings) : Prop where
  issuer : ∀ i, f.issuer = some i → g.issuer = some i
  role : ∀ r, f.issuerMetadata = some r → g.issuer = f.issuer → g.issuerMetadata = some r

namespace Findings.Keeps

variable {f g h : Findings}

theorem of_sender (same : g.sender = f.sender) : f.Keeps g := by
  obtain ⟨issuer, role⟩ := Prod.mk.inj same
  exact ⟨fun i known => issuer.trans known, fun r known _ => role.trans known⟩

theorem of_first {i : Issuer} (unknown : f.issuer = none) (first : g.issuer = some i) :
    f.Keeps g := by
  constructor
  · intro j known
    cases unknown.symm.trans known
  · intro r _ same
    cases first.symm.trans (same.trans unknown)

theorem of_role (unknown : f.issuerMetadata = none) (same : g.issuer = f.issuer) : f.Keeps g := by
  constructor
  · intro i known
    exact same.trans known
  · intro r known
    cases unknown.symm.trans known

theorem trans (fg : f.Keeps g) (gh : g.Keeps h) : f.Keeps h := by
  constructor
  · intro i known
    exact gh.issuer i (fg.issuer i known)
  · intro r known same
    -- Nobody can have come in between and gone again.
    have between : g.issuer = f.issuer := by
      cases first : f.issuer with
      | some i => exact fg.issuer i first
      | none =>
          cases second : g.issuer with
          | none => rfl
          | some i => cases (gh.issuer i second).symm.trans (same.trans first)
    exact gh.role r (fg.role r known between) (same.trans between.symm)

end Findings.Keeps

namespace Evaluation

variable {around : Surroundings} {message : Message} {request : Option Request} {p : Policy}
  {after : Findings}

theorem Learns.keeps (l : Learns around message request p after) : p.findings.Keeps after := by
  cases l with
  | nothing issuer issuerMetadata _ => exact .of_sender (Prod.ext issuer issuerMetadata)
  | issuer claimed _ unknown _ issuer => exact .of_first unknown issuer
  | metadata i claimed role _ known _ unknown _ issuer =>
      exact .of_role unknown (issuer.trans known.symm)
  | trust _ _ _ _ _ issuer issuerMetadata => exact .of_sender (Prod.ext issuer issuerMetadata)

theorem apply_keeps (around : Surroundings) (message : Message) (request : Option Request)
    (rule : Rule) (e : Evaluation) :
    e.policy.findings.Keeps (e.apply around message request rule).2.policy.findings := by
  by_cases checks : rule = .nullSecurity
  · rw [checks]
    exact .of_sender rfl
  · exact (apply_learns around message request e checks).keeps

theorem applyAll_findings_kept (around : Surroundings) (message : Message)
    (request : Option Request) (rules : List Rule) (e : Evaluation) :
    e.policy.findings.Keeps (applyAll around message request rules e).2.policy.findings := by
  refine applyAll_keeps (P := fun found => e.policy.findings.Keeps found.policy.findings) ?_
    (.of_sender rfl)
  intro rule _ found kept
  exact kept.trans (apply_keeps around message request rule found)

/-- What a part of a chain has recorded, the rest of the chain keeps. -/
theorem applyAll_append_kept (around : Surroundings) (message : Message)
    (request : Option Request) (before rest : List Rule) (e : Evaluation) :
    (applyAll around message request before e).2.policy.findings.Keeps
      (applyAll around message request (before ++ rest) e).2.policy.findings := by
  induction before generalizing e with
  | nil => exact applyAll_findings_kept around message request rest e
  | cons rule before ih =>
      rcases answer : e.apply around message request rule with ⟨fault | applied, next⟩
      · rw [List.cons_append, applyAll_of_rejection answer, applyAll_of_rejection answer]
        exact .of_sender rfl
      · rw [List.cons_append, applyAll_of_answer answer, applyAll_of_answer answer]
        exact ih next

end Evaluation

namespace Policy

/-- Whether issuers have to be entities, and the one that is recorded is. -/
def EntityOnly (p : Policy) : Prop :=
  p.requireEntityIssuer = true ∧ ∀ i, p.findings.issuer = some i → i.isEntity = true

/-- Whether an issuer is recorded in the course of some actions where there was none. -/
def MeetsIssuer (p : Policy) (actions : List Action) : Prop :=
  ∃ before action rest, actions = before ++ action :: rest ∧
    (p.performAll before).findings.issuer = none ∧
    ((p.performAll before).perform action).findings.issuer ≠ none

variable {p q : Policy} {actions : List Action} {action : Action}

theorem perform_keeps (remembers : action ≠ .reset false)
    (uncleared : action ≠ .setIssuerMetadata none) :
    p.findings.Keeps (p.perform action).findings := by
  have claims := perform_claims (P := fun q => p.findings.Keeps q.findings) (.of_sender rfl)
    fun i unknown _ => .of_first unknown rfl
  cases action with
  | claimIssuer issuer => exact claims.1 issuer
  | claimIssuerName name => exact claims.2 name
  | setIssuerMetadata role =>
      cases role with
      | none => exact absurd rfl uncleared
      | some role =>
          rcases perform_setIssuerMetadata p role with same | ⟨unknown, recorded⟩
          · rw [same]
            exact .of_sender rfl
          · rw [recorded]
            exact .of_role unknown rfl
  | reset keepIssuer =>
      cases keepIssuer with
      | false => exact absurd rfl remembers
      | true => exact .of_sender rfl
  | evaluate around message request replays =>
      exact Evaluation.applyAll_findings_kept around message request p.rules ⟨p, replays, []⟩
  | _ => exact .of_sender rfl

theorem perform_issuer_kept (remembers : action ≠ .reset false) (i : Issuer)
    (known : p.findings.issuer = some i) : (p.perform action).findings.issuer = some i := by
  by_cases cleared : action = .setIssuerMetadata none
  · rw [cleared]
    exact known
  · exact (perform_keeps remembers cleared).issuer i known

/-! ## Histories -/

theorem performAll_issuer_kept (remembers : .reset false ∉ actions) (i : Issuer)
    (known : p.findings.issuer = some i) : (p.performAll actions).findings.issuer = some i := by
  refine performAll_keeps (P := fun q => q.findings.issuer = some i) ?_ known
  intro action mem q known
  exact perform_issuer_kept (fun forgets => remembers (forgets ▸ mem)) i known

theorem performAll_findings_kept (remembers : .reset false ∉ actions)
    (uncleared : .setIssuerMetadata none ∉ actions) :
    p.findings.Keeps (p.performAll actions).findings := by
  refine performAll_keeps (P := fun q => p.findings.Keeps q.findings) ?_ (.of_sender rfl)
  intro action mem q kept
  exact kept.trans (perform_keeps (fun forgets => remembers (forgets ▸ mem))
    (fun clears => uncleared (clears ▸ mem)))

/-- Where nobody is recorded, nobody is recorded afterwards either, unless an issuer is met. -/
theorem issuer_of_unmet (unmet : ¬ p.MeetsIssuer actions) (unknown : p.findings.issuer = none) :
    (p.performAll actions).findings.issuer = none := by
  induction actions using List.reverseRecOn with
  | nil => exact unknown
  | append_singleton actions action ih =>
      have earlier : ¬ p.MeetsIssuer actions := by
        intro ⟨before, first, rest, same, alone, met⟩
        exact unmet ⟨before, first, rest ++ [action], by simp [same], alone, met⟩
      cases last : (p.performAll (actions ++ [action])).findings.issuer with
      | none => rfl
      | some i =>
          rw [performAll_append] at last
          refine absurd ⟨actions, action, [], rfl, ih earlier, ?_⟩ unmet
          intro still
          cases last.symm.trans still

/-- Where somebody is recorded, nobody else is met before the policy forgets. -/
theorem unmet_of_issuer {i : Issuer} (remembers : .reset false ∉ actions)
    (known : p.findings.issuer = some i) : ¬ p.MeetsIssuer actions := by
  intro ⟨before, action, rest, same, unknown, _⟩
  have earlier : .reset false ∉ before := by
    intro mem
    exact remembers (same ▸ List.mem_append_left _ mem)
  cases unknown.symm.trans (performAll_issuer_kept earlier i known)

theorem EntityOnly.learns {around : Surroundings} {message : Message} {request : Option Request}
    {after : Findings} (only : p.EntityOnly) (l : Evaluation.Learns around message request p after)
    (i : Issuer) (known : after.issuer = some i) : i.isEntity = true := by
  cases l with
  | nothing issuer => exact only.2 i (issuer.symm.trans known)
  | issuer claimed _ _ entity issuer =>
      obtain rfl : claimed = i := Option.some.inj (issuer.symm.trans known)
      exact entity only.1
  | metadata j claimed role _ recorded _ _ _ issuer =>
      exact only.2 i (recorded.trans (issuer.symm.trans known))
  | trust _ _ _ _ _ issuer => exact only.2 i (issuer.symm.trans known)

theorem EntityOnly.apply {e : Evaluation} (only : e.policy.EntityOnly) (around : Surroundings)
    (message : Message) (request : Option Request) (rule : Rule) :
    (e.apply around message request rule).2.policy.EntityOnly := by
  constructor
  · rw [Evaluation.apply_frame]
    exact only.1
  · by_cases checks : rule = .nullSecurity
    · rw [checks]
      exact only.2
    · exact only.learns (Evaluation.apply_learns around message request e checks)

theorem EntityOnly.perform (only : p.EntityOnly) (required : action ≠ .requireEntityIssuer false) :
    (p.perform action).EntityOnly := by
  have claims := perform_claims (P := EntityOnly) only fun i _ entity =>
    ⟨only.1, fun j known => Option.some.inj known ▸ entity only.1⟩
  cases action with
  | claimIssuer issuer => exact claims.1 issuer
  | claimIssuerName name => exact claims.2 name
  | setIssuerMetadata role =>
      cases role with
      | none => exact only
      | some role =>
          rcases perform_setIssuerMetadata p role with same | ⟨_, recorded⟩
          · rw [same]
            exact only
          · rw [recorded]
            exact ⟨only.1, only.2⟩
  | requireEntityIssuer value =>
      cases value with
      | false => exact absurd rfl required
      | true => exact ⟨rfl, only.2⟩
  | reset keepIssuer =>
      cases keepIssuer with
      | true => exact only
      | false => exact ⟨only.1, fun i known => by cases known⟩
  | evaluate around message request replays =>
      refine Evaluation.applyAll_keeps (P := fun found => found.policy.EntityOnly) ?_ only
      intro rule _ found kept
      exact kept.apply around message request rule
  | _ => exact only

/-- While issuers have to be entities, a policy that started out new has no other on record. -/
theorem entityOnly_performAll (new : p.findings = {}) (required : p.requireEntityIssuer = true)
    (unchanged : .requireEntityIssuer false ∉ actions) : (p.performAll actions).EntityOnly := by
  refine performAll_keeps (P := EntityOnly) ?_ ⟨required, ?_⟩
  · intro action mem q only
    exact only.perform fun drops => unchanged (drops ▸ mem)
  · intro i known
    rw [new] at known
    cases known

/-- Whatever is done with a new policy: the first issuer that is recorded stays until the policy is
told to forget it. So does the first role, unless it is cleared or an issuer is met for whom it was
not recorded. As long as issuers have to be entities, the one that is recorded is. The rules of a
chain keep what the ones before them have recorded. -/
theorem recorded_until_forgotten {start : Policy} (new : start.findings = {})
    (past later : List Action) :
    let p := start.performAll past
    let q := p.performAll later
    (.reset false ∉ later → ∀ i, p.findings.issuer = some i → q.findings.issuer = some i) ∧
    (.reset false ∉ later → .setIssuerMetadata none ∉ later → ¬ p.MeetsIssuer later →
      ∀ r, p.findings.issuerMetadata = some r → q.findings.issuerMetadata = some r) ∧
    (start.requireEntityIssuer = true → .requireEntityIssuer false ∉ past →
      ∀ i, p.findings.issuer = some i → i.isEntity = true) ∧
    ∀ around message request replays before rest,
      (Evaluation.applyAll around message request before ⟨p, replays, []⟩).2.policy.findings.Keeps
        (Evaluation.applyAll around message request (before ++ rest)
          ⟨p, replays, []⟩).2.policy.findings := by
  intro p q
  refine ⟨?_, ?_, ?_, ?_⟩
  · intro remembers i known
    exact performAll_issuer_kept remembers i known
  · intro remembers uncleared unmet r known
    have same : q.findings.issuer = p.findings.issuer := by
      cases first : p.findings.issuer with
      | none => exact issuer_of_unmet unmet first
      | some i => exact performAll_issuer_kept remembers i first
    exact (performAll_findings_kept remembers uncleared).role r known same
  · intro required unchanged i known
    exact (entityOnly_performAll new required unchanged).2 i known
  · intro around message request replays before rest
    exact Evaluation.applyAll_append_kept around message request before rest ⟨p, replays, []⟩

/-- A caller names an issuer and its role. -/
def samplePast : List Action :=
  [.claimIssuer (.named "https://idp.example"), .setIssuerMetadata (some sampleRole)]

/-- Another issuer with another role comes up, under a comparison that takes all for the same. -/
def sampleLater : List Action :=
  let other : Role := { sampleRole with entityId := "https://other.example" }
  [.setMatching .lenient, .claimIssuer (.entity other.entityId), .setIssuerMetadata (some other),
    .setRules [.messageExtraction, .nullSecurity],
    .evaluate
      { surroundings sampleCall with directory := some (Directory.ofList [other]).provider }
      { sampleCall.message with issuer := some (.entity other.entityId) } none none,
    .reset true]

theorem sampleLater_replaces_nothing :
    ({} : Policy).findings = {} ∧ .reset false ∉ sampleLater ∧
      .setIssuerMetadata none ∉ sampleLater ∧
      ¬ (performAll {} samplePast).MeetsIssuer sampleLater ∧
      (performAll (performAll {} samplePast) sampleLater).findings.issuer =
        some (.named "https://idp.example") ∧
      (performAll (performAll {} samplePast) sampleLater).findings.issuerMetadata =
        some sampleRole ∧
      (Issuer.named "https://idp.example").isEntity = true := by
  have remembers : .reset false ∉ sampleLater := by simp [sampleLater]
  have uncleared : .setIssuerMetadata none ∉ sampleLater := by simp [sampleLater]
  have known : (performAll {} samplePast).findings.issuer = some (.named "https://idp.example") :=
    rfl
  have unmet := unmet_of_issuer remembers known
  have new : ({} : Policy).findings = {} := rfl
  obtain ⟨issuer, role, entity, -⟩ := recorded_until_forgotten new samplePast sampleLater
  exact ⟨new, remembers, uncleared, unmet, issuer remembers _ known,
    role remembers uncleared unmet _ rfl, entity rfl (by simp [samplePast]) _ known⟩

end Policy

end Gatehouse
