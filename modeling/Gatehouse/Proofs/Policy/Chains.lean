import Gatehouse.Proofs.Policy.Rules

/-! # Chains of rules

The rules of a chain answer one after the other, up to one that rejects the message. What is known
after the chain is accounted for by the rules that have answered: the issuer is authenticated by a
certificate rule whose question the trust engine accepted, and what is known about the issuer is
settled by the first rule that reads the header of the message.
-/

namespace Gatehouse

/-- The issuer, and the role that it plays, as far as they are known. -/
def Findings.sender (f : Findings) : Option Issuer × Option Role :=
  (f.issuer, f.issuerMetadata)

namespace Evaluation

/-- A rule that has answered: what it found, and whether its check took place and succeeded. -/
structure Step where
  rule : Rule
  found : Evaluation
  applied : Bool

variable (around : Surroundings) (message : Message) (request : Option Request)

/-- The rules of a chain that answer, in their order. One that rejects the message is not among
them, and neither are those after it. -/
def steps : List Rule → Evaluation → List Step
  | [], _ => []
  | rule :: rules, e =>
      match e.apply around message request rule with
      | (.error _, _) => []
      | (.ok applied, next) => ⟨rule, e, applied⟩ :: steps rules next

/-- Whether the trust engine accepts the client's certificate in TLS for the role that is known, as
that of the issuer that is known, if there is one. -/
def Vouched (f : Findings) : Prop :=
  ∃ engine r role leaf, around.engine = some engine ∧ request = some r ∧
    f.issuerMetadata = some role ∧ r.clientCertificates.head? = some leaf ∧
    engine.accepts ⟨leaf, r.clientCertificates, role, ⟨f.issuer.map Issuer.name, .tls⟩⟩ = true

/-- Whether the header of the message has nothing to add to what is known about the issuer. -/
def Settled (p : Policy) : Prop :=
  ∀ claimed, message.issuer = some claimed → p.findings.issuer ≠ none ∧
    (p.findings.issuerMetadata = none → metadata? around message claimed p = none)

/-- Whether a step has authenticated the issuer. -/
def Step.Authenticates (step : Step) : Prop :=
  ∃ s, step.rule = .clientCertificate s ∧ step.applied = true

variable {around message request} {e next after found : Evaluation} {rule : Rule}
  {rules before rest : List Rule} {applied : Bool} {fault : Error} {p q : Policy} {f g : Findings}

theorem applyAll_of_answer (answer : e.apply around message request rule = (.ok applied, next)) :
    applyAll around message request (rule :: rules) e =
      applyAll around message request rules next := by
  simp only [applyAll, answer]

theorem applyAll_of_rejection (reject : e.apply around message request rule = (.error fault, next)) :
    applyAll around message request (rule :: rules) e = (.error fault, next) := by
  simp only [applyAll, reject]

theorem steps_of_answer (answer : e.apply around message request rule = (.ok applied, next)) :
    steps around message request (rule :: rules) e =
      ⟨rule, e, applied⟩ :: steps around message request rules next := by
  simp only [steps, answer]

theorem steps_of_rejection (reject : e.apply around message request rule = (.error fault, next)) :
    steps around message request (rule :: rules) e = [] := by
  simp only [steps, reject]

/-- What every rule of a chain keeps, the chain keeps, however it ends. -/
theorem applyAll_keeps {P : Evaluation → Prop}
    (step : ∀ rule ∈ rules, ∀ found, P found → P (found.apply around message request rule).2)
    (start : P e) : P (applyAll around message request rules e).2 := by
  induction rules generalizing e with
  | nil => exact start
  | cons rule rules ih =>
      have kept := step rule List.mem_cons_self e start
      rcases answer : e.apply around message request rule with ⟨fault | applied, next⟩
      · rw [applyAll_of_rejection answer]
        simpa only [answer] using kept
      · rw [applyAll_of_answer answer]
        rw [answer] at kept
        exact ih (fun later mem => step later (List.mem_cons_of_mem _ mem)) kept

/-- A chain that accepts the message has run each of its parts. -/
theorem applyAll_append (accepted :
      applyAll around message request (before ++ rest) e = (.ok (), after)) :
    ∃ found, applyAll around message request before e = (.ok (), found) ∧
      applyAll around message request rest found = (.ok (), after) := by
  induction before generalizing e with
  | nil => exact ⟨e, rfl, accepted⟩
  | cons rule before ih =>
      rcases answer : e.apply around message request rule with ⟨fault | applied, next⟩
      · rw [List.cons_append, applyAll_of_rejection answer] at accepted
        cases accepted
      · rw [List.cons_append, applyAll_of_answer answer] at accepted
        rw [applyAll_of_answer answer]
        exact ih accepted

/-- A chain that accepts the message and begins with a rule has got an answer from it. -/
theorem apply_of_applyAll (accepted :
      applyAll around message request (rule :: rest) e = (.ok (), after)) :
    ∃ applied next, e.apply around message request rule = (.ok applied, next) ∧
      applyAll around message request rest next = (.ok (), after) := by
  rcases answer : e.apply around message request rule with ⟨fault | applied, next⟩
  · rw [applyAll_of_rejection answer] at accepted
    cases accepted
  · rw [applyAll_of_answer answer] at accepted
    exact ⟨applied, next, rfl, accepted⟩

theorem applyAll_ok_iff : applyAll around message request (rule :: rest) e = (.ok (), after) ↔
    (∃ applied, (e.apply around message request rule).1 = .ok applied) ∧
      applyAll around message request rest (e.apply around message request rule).2 =
        (.ok (), after) := by
  rcases answer : e.apply around message request rule with ⟨fault | applied, next⟩
  · rw [applyAll_of_rejection answer]
    simp
  · rw [applyAll_of_answer answer]
    simp

/-- The rules that answer are those before the one that rejects the message. -/
theorem steps_of_rejected (rejected :
      applyAll around message request rules e = (.error fault, after)) :
    ∃ rule rest, rules = (steps around message request rules e).map Step.rule ++ rule :: rest := by
  induction rules generalizing e with
  | nil => cases rejected
  | cons rule rules ih =>
      rcases answer : e.apply around message request rule with ⟨fault | applied, next⟩
      · rw [steps_of_rejection answer]
        exact ⟨rule, rules, rfl⟩
      · rw [applyAll_of_answer answer] at rejected
        obtain ⟨last, rest, same⟩ := ih rejected
        rw [steps_of_answer answer]
        exact ⟨last, rest, congrArg (rule :: ·) same⟩

/-- Each step stands in the chain after rules that have answered. -/
theorem mem_steps {step : Step} (mem : step ∈ steps around message request rules e) :
    ∃ before rest next, rules = before ++ step.rule :: rest ∧
      applyAll around message request before e = (.ok (), step.found) ∧
      step.found.apply around message request step.rule = (.ok step.applied, next) := by
  induction rules generalizing e with
  | nil => cases mem
  | cons rule rules ih =>
      rcases answer : e.apply around message request rule with ⟨fault | applied, next⟩
      · rw [steps_of_rejection answer] at mem
        cases mem
      · rw [steps_of_answer answer] at mem
        rcases List.mem_cons.1 mem with rfl | mem
        · exact ⟨[], rules, next, rfl, rfl, answer⟩
        · obtain ⟨before, rest, last, same, ran, given⟩ := ih mem
          refine ⟨rule :: before, rest, last, congrArg (rule :: ·) same, ?_, given⟩
          rw [applyAll_of_answer answer]
          exact ran

theorem steps_mem (ran : applyAll around message request before e = (.ok (), found))
    (answer : found.apply around message request rule = (.ok applied, next)) :
    ⟨rule, found, applied⟩ ∈ steps around message request (before ++ rule :: rest) e := by
  induction before generalizing e with
  | nil =>
      cases ran
      rw [List.nil_append, steps_of_answer answer]
      exact List.mem_cons_self
  | cons first before ih =>
      obtain ⟨value, middle, given, onward⟩ := apply_of_applyAll ran
      rw [List.cons_append, steps_of_answer given]
      exact List.mem_cons_of_mem _ (ih onward)

/-! ## What single rules leave alone -/

/-- Reading the header changes what is known about the message and its issuer, and nothing else. -/
theorem extract_frame (around : Surroundings) (message : Message) (e : Evaluation) :
    ∃ issuer role, (e.extract around message).2 = e.withPolicy
      { e.policy with
        findings :=
          { e.policy.findings with
            messageId := message.id, issued := message.issued
            issuer := issuer, issuerMetadata := role } } := by
  unfold extract
  cases message.issuer with
  | none => exact ⟨_, _, rfl⟩
  | some claimed =>
      simp only
      cases verdict : ((e.policy.withMessageId message.id).withIssued message.issued).claimIssuer
          claimed with
      | error fault => exact ⟨_, _, rfl⟩
      | ok q =>
          simp only
          rcases Policy.claimIssuer_ok verdict with ⟨_, _, _, rfl⟩ | ⟨_, _, rfl⟩
          · split <;> exact ⟨_, _, rfl⟩
          · split <;> exact ⟨_, _, rfl⟩

theorem checkCertificate_frame (s : ClientCertSettings) (around : Surroundings)
    (request : Option Request) (e : Evaluation) :
    ∃ authenticated asked, (e.checkCertificate s around request).2 =
      { e with policy := e.policy.withAuthenticated authenticated, asked := asked } := by
  unfold checkCertificate
  split
  · next engine question _ _ =>
      by_cases accepted : engine.accepts question
      · simp only [accepted, if_true]
        exact ⟨_, _, rfl⟩
      · simp only [accepted, Bool.false_eq_true, if_false]
        cases s.errorFatal <;> exact ⟨e.policy.findings.authenticated, _, rfl⟩
  · exact ⟨e.policy.findings.authenticated, e.asked, rfl⟩

/-- No rule changes what it takes from the policy besides the findings. -/
theorem apply_frame (around : Surroundings) (message : Message) (request : Option Request)
    (rule : Rule) (e : Evaluation) :
    (e.apply around message request rule).2.policy =
      { e.policy with findings := (e.apply around message request rule).2.policy.findings } := by
  cases rule with
  | messageExtraction =>
      obtain ⟨issuer, role, same⟩ := extract_frame around message e
      rw [apply, same]
      rfl
  | messageFlow s =>
      rw [apply, checkFlow_policy]
      rfl
  | clientCertificate s =>
      obtain ⟨authenticated, asked, same⟩ := checkCertificate_frame s around request e
      rw [apply, same]
      rfl
  | ignore name => rfl
  | nullSecurity => rfl

theorem apply_role (around : Surroundings) (message : Message) (request : Option Request)
    (rule : Rule) (e : Evaluation) :
    (e.apply around message request rule).2.policy.role = e.policy.role := by
  rw [apply_frame]

theorem apply_sender (around : Surroundings) (message : Message) (request : Option Request)
    (e : Evaluation) (other : rule ≠ .messageExtraction) :
    (e.apply around message request rule).2.policy.findings.sender = e.policy.findings.sender := by
  cases rule with
  | messageExtraction => exact absurd rfl other
  | messageFlow s =>
      rw [apply, checkFlow_policy]
      rfl
  | clientCertificate s =>
      obtain ⟨authenticated, asked, same⟩ := checkCertificate_frame s around request e
      rw [apply, same]
      rfl
  | ignore name => rfl
  | nullSecurity => rfl

/-! ## Who authenticates -/

theorem vouched_iff : Vouched around request p.findings ↔
    ∃ engine question, around.engine = some engine ∧ question? p request = some question ∧
      engine.accepts question = true := by
  simp only [Vouched, question?, bind, Option.bind_eq_some_iff, pure, Option.some.injEq]
  constructor
  · rintro ⟨engine, r, role, leaf, consulted, given, known, first, accepted⟩
    exact ⟨engine, _, consulted, ⟨r, given, role, known, leaf, first, rfl⟩, accepted⟩
  · rintro ⟨engine, question, consulted, ⟨r, given, role, known, leaf, first, rfl⟩, accepted⟩
    exact ⟨engine, r, role, leaf, consulted, given, known, first, accepted⟩

/-- A certificate rule succeeds where the trust engine accepts the certificate. -/
theorem checkCertificate_ok_true (s : ClientCertSettings) :
    (e.checkCertificate s around request).1 = .ok true ↔
      Vouched around request e.policy.findings := by
  rw [vouched_iff]
  unfold checkCertificate
  split
  · next engine question consulted asked =>
      by_cases accepted : engine.accepts question
      · simp [consulted, asked, accepted]
      · cases s.errorFatal <;> simp [consulted, asked, accepted]
  · next unasked =>
      constructor
      · intro answer
        cases answer
      · rintro ⟨engine, question, consulted, asked, -⟩
        exact absurd asked (unasked engine question consulted)

theorem checkCertificate_authenticated (s : ClientCertSettings) :
    (e.checkCertificate s around request).2.policy.findings.authenticated = true ↔
      e.policy.findings.authenticated = true ∨
        (e.checkCertificate s around request).1 = .ok true := by
  unfold checkCertificate
  split
  · next engine question _ _ =>
      by_cases accepted : engine.accepts question
      · simp [accepted, withPolicy, Policy.withAuthenticated]
      · cases s.errorFatal <;> simp [accepted]
  · simp

/-- A certificate rule authenticates the issuer when its check succeeds; no other rule that checks
anything does. -/
theorem apply_authenticated (around : Surroundings) (message : Message)
    (request : Option Request) (e : Evaluation) (checks : rule ≠ .nullSecurity) :
    (e.apply around message request rule).2.policy.findings.authenticated = true ↔
      e.policy.findings.authenticated = true ∨
        (∃ s, rule = .clientCertificate s) ∧
          (e.apply around message request rule).1 = .ok true := by
  cases rule with
  | clientCertificate s =>
      simpa only [apply, Rule.clientCertificate.injEq, exists_eq', true_and] using
        checkCertificate_authenticated s
  | messageExtraction =>
      obtain ⟨issuer, role, same⟩ := extract_frame around message e
      simp [apply, same, withPolicy]
  | messageFlow s => simp [apply, checkFlow_policy, Policy.withTime]
  | ignore name => simp [apply]
  | nullSecurity => exact absurd rfl checks

/-- Whether the issuer counts as authenticated after a chain, however the chain ends. -/
theorem applyAll_authenticated (around : Surroundings) (message : Message)
    (request : Option Request) (e : Evaluation) (checks : .nullSecurity ∉ rules) :
    (applyAll around message request rules e).2.policy.findings.authenticated = true ↔
      e.policy.findings.authenticated = true ∨
        ∃ step ∈ steps around message request rules e, step.Authenticates := by
  induction rules generalizing e with
  | nil => simp [applyAll, steps]
  | cons rule rules ih =>
      simp only [List.mem_cons, not_or] at checks
      have flag := apply_authenticated around message request e (Ne.symm checks.1)
      rcases answer : e.apply around message request rule with ⟨fault | applied, next⟩
      · rw [applyAll_of_rejection answer, steps_of_rejection answer]
        simpa [answer] using flag
      · rw [applyAll_of_answer answer, steps_of_answer answer, ih next checks.2]
        simp only [answer, Except.ok.injEq] at flag
        simp only [flag, List.mem_cons, exists_eq_or_imp, Step.Authenticates, or_assoc,
          exists_and_right]

/-! ## What is known about the issuer -/

theorem Vouched.congr (v : Vouched around request f) (same : g.sender = f.sender) :
    Vouched around request g := by
  obtain ⟨issuer, issuerMetadata⟩ := Prod.mk.inj same
  unfold Vouched
  rw [issuer, issuerMetadata]
  exact v

theorem metadata?_congr {claimed : Issuer} (role : q.role = p.role) :
    metadata? around message claimed q = metadata? around message claimed p := by
  simp only [metadata?, role]

theorem Settled.congr (h : Settled around message p)
    (sender : q.findings.sender = p.findings.sender) (role : q.role = p.role) :
    Settled around message q := by
  obtain ⟨issuer, issuerMetadata⟩ := Prod.mk.inj sender
  intro claimed claims
  rw [issuer, issuerMetadata, metadata?_congr role]
  exact h claimed claims

theorem Settled.extract (h : Settled around message e.policy) :
    (e.extract around message).2.policy.findings.sender = e.policy.findings.sender := by
  cases extract_learns around message none e with
  | nothing issuer issuerMetadata _ => exact Prod.ext issuer issuerMetadata
  | issuer claimed claims unknown => exact absurd unknown (h claimed claims).1
  | metadata i claimed role claims known agrees unknown found =>
      cases found.symm.trans ((h claimed claims).2 unknown)
  | trust engine question _ _ _ issuer issuerMetadata => exact Prod.ext issuer issuerMetadata

theorem Settled.apply (h : Settled around message e.policy) (request : Option Request)
    (rule : Rule) :
    (e.apply around message request rule).2.policy.findings.sender = e.policy.findings.sender := by
  by_cases extraction : rule = .messageExtraction
  · rw [extraction]
    exact h.extract
  · exact apply_sender around message request e extraction

theorem applyAll_role (around : Surroundings) (message : Message) (request : Option Request)
    (rules : List Rule) (e : Evaluation) :
    (applyAll around message request rules e).2.policy.role = e.policy.role :=
  applyAll_keeps (P := fun found => found.policy.role = e.policy.role)
    (fun rule _ found kept => (apply_role around message request rule found).trans kept) rfl

theorem Settled.applyAll (h : Settled around message e.policy) (request : Option Request)
    (rules : List Rule) :
    (applyAll around message request rules e).2.policy.findings.sender =
      e.policy.findings.sender := by
  refine And.right (applyAll_keeps (P := fun found => Settled around message found.policy ∧
    found.policy.findings.sender = e.policy.findings.sender) ?_ ⟨h, rfl⟩)
  intro rule _ found kept
  have sender := kept.1.apply request rule
  exact ⟨kept.1.congr sender (apply_role around message request rule found), sender.trans kept.2⟩

theorem applyAll_sender (around : Surroundings) (message : Message) (request : Option Request)
    (e : Evaluation) (unread : .messageExtraction ∉ rules) :
    (applyAll around message request rules e).2.policy.findings.sender =
      e.policy.findings.sender := by
  refine applyAll_keeps
    (P := fun found => found.policy.findings.sender = e.policy.findings.sender) ?_ rfl
  intro rule mem found kept
  have other : rule ≠ .messageExtraction := fun same => unread (same ▸ mem)
  exact (apply_sender around message request found other).trans kept

/-- Once a rule has read the header, it has nothing to add. -/
theorem extract_settles (answer : e.extract around message = (.ok applied, next)) :
    Settled around message next.policy := by
  intro claimed claims
  unfold extract at answer
  simp only [claims] at answer
  cases verdict : ((e.policy.withMessageId message.id).withIssued message.issued).claimIssuer
      claimed with
  | error fault =>
      rw [verdict] at answer
      cases answer
  | ok q =>
      rw [verdict] at answer
      have known : q.findings.issuer ≠ none := by
        rcases Policy.claimIssuer_ok verdict with ⟨i, known, -, rfl⟩ | ⟨-, -, rfl⟩
        · simp [known]
        · simp [Policy.withIssuer]
      simp only at answer
      split at answer
      · cases answer
        exact ⟨known, fun unknown => by cases unknown⟩
      · next nothing =>
          cases answer
          refine ⟨known, fun unknown => ?_⟩
          cases found : metadata? around message claimed q with
          | none => exact found
          | some role => exact absurd found (nothing role unknown)

/-- A first issuer is the one that the message claims, with the role that is looked up for it. -/
theorem extract_first {claimed : Issuer} (unknown : e.policy.findings.issuer = none)
    (claims : message.issuer = some claimed)
    (answer : e.extract around message = (.ok applied, next)) :
    next.policy.findings.sender = (some claimed, metadata? around message claimed e.policy) := by
  have known : next.policy.findings.issuer ≠ none := (extract_settles answer claimed claims).1
  have learned := extract_learns around message none e
  rw [answer] at learned
  cases learned with
  | nothing issuer => exact absurd (issuer.trans unknown) known
  | issuer claimed' claims' _ _ issuer issuerMetadata =>
      obtain rfl : claimed = claimed' := Option.some.inj (claims.symm.trans claims')
      exact Prod.ext issuer issuerMetadata
  | metadata i _ _ _ known' => cases known'.symm.trans unknown
  | trust _ _ _ _ _ issuer => exact absurd (issuer.trans unknown) known

end Evaluation

end Gatehouse
