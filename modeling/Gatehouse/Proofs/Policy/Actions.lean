import Gatehouse.Proofs.Policy.Chains

/-! # What is done with a policy

Callers state what they know about a message and its issuer, change the settings of a policy, have
messages evaluated and make the policy forget. A history of a policy is a list of such actions, in
which any of them may fail.
-/

namespace Gatehouse.Policy

inductive Action where
  | claimIssuer (issuer : Issuer)
  | claimIssuerName (name : String)
  | setIssuerMetadata (role : Option Role)
  | setMessageId (id : Option String)
  | setIssued (issued : Option Instant)
  | setAuthenticated (authenticated : Bool)
  | setTime (now : Instant)
  /-- Asks for the time, which fixes it to what the clock reads. -/
  | askTime (clock : Instant)
  | requireEntityIssuer (required : Bool)
  | setMatching (matching : IssuerMatching)
  | setRules (rules : List Rule)
  /-- Takes the other settings over from a policy. -/
  | configure (settings : Policy)
  | reset (keepIssuer : Bool)
  /-- Runs the rules, with a replay cache as it is by then. -/
  | evaluate (around : Surroundings) (message : Message) (request : Option Request)
      (replays : Option ReplayCache)

/-- The policy after an action. A claim that is refused leaves it as it was; an evaluation leaves
what its rules have found, also if the message is rejected. -/
def perform (p : Policy) : Action → Policy
  | .claimIssuer issuer => (p.claimIssuer issuer).toOption.getD p
  | .claimIssuerName name => (p.claimIssuerName name).toOption.getD p
  | .setIssuerMetadata role => (p.setIssuerMetadata role).toOption.getD p
  | .setMessageId id => p.withMessageId id
  | .setIssued issued => p.withIssued issued
  | .setAuthenticated authenticated => p.withAuthenticated authenticated
  | .setTime now => p.withTime now
  | .askTime clock => p.withTime (p.time clock)
  | .requireEntityIssuer required => { p with requireEntityIssuer := required }
  | .setMatching matching => { p with matching := matching }
  | .setRules rules => { p with rules := rules }
  | .configure settings =>
      { p with
        role := settings.role, security := settings.security, validating := settings.validating
        audiences := settings.audiences, correlationId := settings.correlationId }
  | .reset keepIssuer => p.reset keepIssuer
  | .evaluate around message request replays =>
      (Evaluation.run around message request ⟨p, replays, []⟩).2.policy

def performAll (p : Policy) (actions : List Action) : Policy :=
  actions.foldl perform p

variable {p q : Policy} {actions : List Action}

theorem performAll_append (p : Policy) (past later : List Action) :
    p.performAll (past ++ later) = (p.performAll past).performAll later :=
  List.foldl_append

/-- What every action of a history keeps, the history keeps. -/
theorem performAll_keeps {P : Policy → Prop}
    (step : ∀ action ∈ actions, ∀ q, P q → P (q.perform action)) (start : P p) :
    P (p.performAll actions) := by
  induction actions generalizing p with
  | nil => exact start
  | cons action actions ih =>
      have next := step action List.mem_cons_self p start
      exact ih (fun later mem => step later (List.mem_cons_of_mem _ mem)) next

/-! ## Claims -/

/-- A name that stands alone is an entity's. -/
theorem isEntity_named (name : String) : (Issuer.named name).isEntity = true := by
  simp [Issuer.isEntity, Issuer.effectiveFormat, Issuer.named]

theorem claimIssuerName_ok {name : String} (accepted : p.claimIssuerName name = .ok q) :
    q = p ∨ p.findings.issuer = none ∧ q = p.withIssuer (.named name) := by
  unfold claimIssuerName at accepted
  by_cases nothing : name.isEmpty = true
  · simp only [nothing, if_true, Except.ok.injEq] at accepted
    exact .inl accepted.symm
  · simp only [nothing, Bool.false_eq_true, if_false] at accepted
    cases known : p.findings.issuer with
    | none =>
        simp only [known, Except.ok.injEq] at accepted
        exact .inr ⟨rfl, accepted.symm⟩
    | some i =>
        simp only [known] at accepted
        split at accepted
        · exact .inl (Except.ok.inj accepted).symm
        · cases accepted

/-- A claim, in full or by name, changes nothing, or it is the first one and is recorded. -/
theorem perform_claims {P : Policy → Prop} (start : P p)
    (first : ∀ i, p.findings.issuer = none → (p.requireEntityIssuer = true → i.isEntity = true) →
      P (p.withIssuer i)) :
    (∀ issuer, P (p.perform (.claimIssuer issuer))) ∧
      ∀ name, P (p.perform (.claimIssuerName name)) := by
  constructor
  · intro issuer
    simp only [perform]
    cases verdict : p.claimIssuer issuer with
    | error fault => exact start
    | ok q =>
        rcases claimIssuer_ok verdict with ⟨_, _, _, rfl⟩ | ⟨unknown, entity, rfl⟩
        · exact start
        · exact first issuer unknown entity
  · intro name
    simp only [perform]
    cases verdict : p.claimIssuerName name with
    | error fault => exact start
    | ok q =>
        rcases claimIssuerName_ok verdict with rfl | ⟨unknown, rfl⟩
        · exact start
        · exact first (.named name) unknown fun _ => isEntity_named name

/-- A role is recorded where there is none. -/
theorem perform_setIssuerMetadata (p : Policy) (role : Role) :
    p.perform (.setIssuerMetadata (some role)) = p ∨
      p.findings.issuerMetadata = none ∧ p.perform (.setIssuerMetadata (some role)) =
        { p with findings := { p.findings with issuerMetadata := some role } } := by
  simp only [perform, setIssuerMetadata]
  cases known : p.findings.issuerMetadata with
  | none => simp [Except.toOption]
  | some current =>
      by_cases same : current = role
      · simp [same, Except.toOption]
      · simp [same, Except.toOption]

/-- An evaluation changes nothing but the findings. -/
theorem perform_evaluate (p : Policy) (around : Surroundings) (message : Message)
    (request : Option Request) (replays : Option ReplayCache) :
    ∃ findings, p.perform (.evaluate around message request replays) =
      { p with findings := findings } := by
  refine Evaluation.applyAll_keeps
    (P := fun found => ∃ findings, found.policy = { p with findings := findings }) ?_ ⟨_, rfl⟩
  intro rule _ found ⟨findings, same⟩
  rw [Evaluation.apply_frame, same]
  exact ⟨_, rfl⟩

end Gatehouse.Policy
