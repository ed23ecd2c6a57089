import Gatehouse.Proofs.Credential.PublishedKeys
import Gatehouse.Proofs.Policy.Rules

/-! # What authentication rests on

A policy that trusts published keys only is used for many messages, and reset now and then. Whenever
it says that its issuer is authenticated, that issuer's metadata is recorded and publishes a key
that a client has presented since everything was last forgotten.
-/

namespace Gatehouse

/-- Whether a role publishes a key for use in TLS: for that, for signing or for no use in
particular. -/
def Role.Publishes (r : Role) (key : Bytes) : Prop :=
  ∃ k ∈ r.keys, (k.usage = .unspecified ∨ k.usage = .signing ∨ k.usage = .tls) ∧
    ∃ c ∈ k.certificates, c.publicKey = key

theorem Usage.permits_tls {u : Usage} :
    u.permits .tls ↔ u = .unspecified ∨ u = .signing ∨ u = .tls := by
  cases u <;> decide

theorem Role.publishes_iff {r : Role} {key : Bytes} :
    r.Publishes key ↔ ((r.certificatesFor .tls).any fun c => c.publicKey = key) = true := by
  rw [any_certificatesFor]
  simp only [Publishes, Usage.permits_tls]

/-- An evaluation as its caller sees it: the message and the request, the rules that the policy has
by then, and what they consult. -/
structure Call where
  now : Instant
  cacheNow : Instant := now
  message : Message
  request : Option Request
  rules : List Rule
  directory : Option MetadataProvider
  replays : Option ReplayCache

def Call.Presents (c : Call) (leaf : Certificate) : Prop :=
  ∃ request, c.request = some request ∧ request.clientCertificates.head? = some leaf

/-- What is done with a policy between one message and the next. -/
inductive Operation where
  | evaluate (call : Call)
  /-- Forgets the message, and what is known about its issuer unless that is kept. -/
  | reset (keepIssuer : Bool)

namespace Policy

def surroundings (c : Call) : Surroundings :=
  ⟨c.now, c.cacheNow, c.directory, some .explicitKey⟩

/-- The policy after an operation, whatever an evaluation answers. -/
def after (p : Policy) : Operation → Policy
  | .evaluate c =>
      (Evaluation.run (surroundings c) c.message c.request
        ⟨{ p with rules := c.rules }, c.replays, []⟩).2.policy
  | .reset keepIssuer => p.reset keepIssuer

def afterAll (p : Policy) (ops : List Operation) : Policy :=
  ops.foldl after p

/-- Whether a call was made since the issuer was last forgotten. -/
def Remembers (ops : List Operation) (c : Call) : Prop :=
  ∃ before rest, ops = before ++ .evaluate c :: rest ∧ .reset false ∉ rest

/-- What is known about the issuer, given the calls that may have contributed to it. -/
structure Backed (calls : Call → Prop) (f : Findings) : Prop where
  /-- Metadata is known of known issuers only. -/
  known : f.issuerMetadata ≠ none → f.issuer ≠ none
  /-- Behind an authenticated issuer there is a call that presented its key. -/
  backed : f.authenticated = true → ∃ i r, f.issuer = some i ∧ f.issuerMetadata = some r ∧
    r.entityId = i.name ∧ ∃ c leaf, calls c ∧ c.Presents leaf ∧ r.Publishes leaf.publicKey

variable {p : Policy} {f g : Findings} {calls : Call → Prop} {c : Call} {ops : List Operation}
  {op : Operation}

theorem remembers_evaluate : Remembers (ops ++ [.evaluate c]) c :=
  ⟨ops, [], rfl, by simp⟩

theorem Remembers.before (r : Remembers ops c) (kept : op ≠ .reset false) :
    Remembers (ops ++ [op]) c := by
  obtain ⟨before, rest, rfl, none⟩ := r
  refine ⟨before, rest ++ [op], by simp, ?_⟩
  simp only [List.mem_append, List.mem_singleton, not_or]
  exact ⟨none, kept.symm⟩

theorem Backed.mono {more : Call → Prop} (b : Backed calls f) (le : ∀ c, calls c → more c) :
    Backed more f := by
  refine ⟨b.known, fun trusted => ?_⟩
  obtain ⟨i, r, issuer, role, same, c, leaf, made, presents, publishes⟩ := b.backed trusted
  exact ⟨i, r, issuer, role, same, c, leaf, le c made, presents, publishes⟩

/-- Only what is known about the issuer counts. -/
theorem Backed.congr (b : Backed calls f) (issuer : g.issuer = f.issuer)
    (issuerMetadata : g.issuerMetadata = f.issuerMetadata)
    (authenticated : g.authenticated = f.authenticated) : Backed calls g := by
  refine ⟨?_, ?_⟩
  · rw [issuer, issuerMetadata]
    exact b.known
  · rw [issuer, issuerMetadata, authenticated]
    exact b.backed

/-- A question about a request is about its client's certificate and the role that is known. -/
theorem question_eq {request : Option Request} {q : TrustQuestion}
    (asked : Evaluation.question? p request = some q) :
    p.findings.issuerMetadata = some q.role ∧
      q.criteria = ⟨p.findings.issuer.map Issuer.name, .tls⟩ ∧
      ∃ r, request = some r ∧ r.clientCertificates.head? = some q.leaf := by
  simp only [Evaluation.question?, bind, Option.bind_eq_some_iff, pure, Option.some.injEq] at asked
  obtain ⟨r, given, role, known, leaf, first, rfl⟩ := asked
  exact ⟨known, rfl, r, given, first⟩

/-- A key that the engine accepts is published by the role of the issuer that it was asked about. -/
theorem explicitKey_accepts {q : TrustQuestion} {i : Issuer}
    (about : q.criteria = ⟨some i.name, .tls⟩) (accepted : TrustEngine.explicitKey.accepts q) :
    q.role.entityId = i.name ∧ q.role.Publishes q.leaf.publicKey := by
  simp only [TrustEngine.explicitKey, about, Option.all_some, Bool.and_eq_true,
    decide_eq_true_eq] at accepted
  exact ⟨accepted.1.symm, Role.publishes_iff.2 accepted.2⟩

/-- What one rule learns from a call is backed if the call is one of those that count. -/
theorem Backed.learns (b : Backed calls p.findings) (made : calls c)
    (l : Evaluation.Learns (surroundings c) c.message c.request p g) : Backed calls g := by
  cases l with
  | nothing issuer issuerMetadata authenticated => exact b.congr issuer issuerMetadata authenticated
  | issuer claimed _ unknown _ issuer _ authenticated =>
      refine ⟨fun _ => by simp [issuer], fun trusted => ?_⟩
      obtain ⟨i, _, known, _⟩ := b.backed (authenticated.symm.trans trusted)
      cases known.symm.trans unknown
  | metadata i claimed role _ known _ unknown _ issuer _ authenticated =>
      refine ⟨fun _ => by simp [issuer], fun trusted => ?_⟩
      -- What was authenticated had metadata already, which later metadata does not replace.
      obtain ⟨_, r, _, held, _⟩ := b.backed (authenticated.symm.trans trusted)
      cases held.symm.trans unknown
  | trust engine q consulted asked accepted issuer issuerMetadata authenticated =>
      obtain rfl : TrustEngine.explicitKey = engine := Option.some.inj consulted
      obtain ⟨role, about, request, given, first⟩ := question_eq asked
      -- The engine lets any role pass when no issuer is named, so there has to be one.
      have named : p.findings.issuer ≠ none := b.known (by simp [role])
      obtain ⟨i, known⟩ := Option.ne_none_iff_exists'.1 named
      rw [known] at about
      obtain ⟨same, publishes⟩ := explicitKey_accepts about accepted
      rw [known] at issuer
      rw [role] at issuerMetadata
      refine ⟨fun _ => by simp [issuer], fun _ => ?_⟩
      exact ⟨i, q.role, issuer, issuerMetadata, same, c, q.leaf, made, ⟨request, given, first⟩,
        publishes⟩

/-- A chain that checks keeps what is known backed, up to the rule that rejects the message. -/
theorem Backed.applyAll {rules : List Rule} {e : Evaluation} (b : Backed calls e.policy.findings)
    (made : calls c) (checks : .nullSecurity ∉ rules) :
    Backed calls (Evaluation.applyAll (surroundings c) c.message c.request rules
      e).2.policy.findings := by
  induction rules generalizing e with
  | nil => exact b
  | cons rule rules ih =>
      simp only [List.mem_cons, not_or] at checks
      have learned := b.learns made
        (Evaluation.apply_learns (surroundings c) c.message c.request e (Ne.symm checks.1))
      rcases verdict : e.apply (surroundings c) c.message c.request rule with
        ⟨fault | applied, next⟩
      · simp only [verdict] at learned
        simp only [Evaluation.applyAll, verdict]
        exact learned
      · simp only [verdict] at learned
        simp only [Evaluation.applyAll, verdict]
        exact ih learned checks.2

theorem Backed.after (b : Backed (Remembers ops) p.findings)
    (checks : ∀ c, op = .evaluate c → .nullSecurity ∉ c.rules) :
    Backed (Remembers (ops ++ [op])) (p.after op).findings := by
  cases op with
  | evaluate c =>
      have b : Backed (Remembers (ops ++ [.evaluate c])) p.findings :=
        b.mono fun _ made => made.before (by simp)
      exact Backed.applyAll (e := ⟨{ p with rules := c.rules }, c.replays, []⟩) b
        remembers_evaluate (checks c rfl)
  | reset keepIssuer =>
      cases keepIssuer with
      | true =>
          have b : Backed (Remembers (ops ++ [.reset true])) p.findings :=
            b.mono fun _ made => made.before (by simp)
          exact b.congr rfl rfl rfl
      | false => exact ⟨fun known => absurd rfl known, fun trusted => by cases trusted⟩

theorem Backed.afterAll {past : List Operation} (b : Backed (Remembers past) p.findings)
    (checks : ∀ c, .evaluate c ∈ ops → .nullSecurity ∉ c.rules) :
    Backed (Remembers (past ++ ops)) (p.afterAll ops).findings := by
  induction ops generalizing p past with
  | nil => simpa [Policy.afterAll] using b
  | cons op ops ih =>
      have next : Backed (Remembers (past ++ [op])) (p.after op).findings :=
        b.after fun c is => checks c (by simp [is])
      simpa [Policy.afterAll] using ih next fun c made => checks c (by simp [made])

/-- A policy that starts out knowing nothing about its issuer and trusts published keys only: when
it says that the issuer is authenticated, an issuer and its metadata are recorded, and since the
issuer was last forgotten a request presented a client certificate whose key that metadata publishes
for use in TLS. -/
theorem authenticated_by_published_key (unknown : p.findings.issuerMetadata = none)
    (unauthenticated : p.findings.authenticated = false)
    (checks : ∀ c, .evaluate c ∈ ops → .nullSecurity ∉ c.rules)
    (authenticated : (p.afterAll ops).findings.authenticated = true) :
    ∃ i r, (p.afterAll ops).findings.issuer = some i ∧
      (p.afterAll ops).findings.issuerMetadata = some r ∧ r.entityId = i.name ∧
      ∃ c leaf, Remembers ops c ∧ c.Presents leaf ∧ r.Publishes leaf.publicKey := by
  have start : Backed (Remembers []) p.findings :=
    ⟨fun known => absurd unknown known, fun trusted => by simp [unauthenticated] at trusted⟩
  exact (start.afterAll checks).backed authenticated

/-- The bytes of a certificate without names. -/
def sampleDer : Bytes :=
  let algorithm := [0x30, 3, 6, 1, 0x2a]
  let key := [3, 2, 0, 7]
  let midnight := 23 :: 11 :: Bytes.ofString "2403010000Z"
  [0x30, 62, 0x30, 51, 2, 1, 1] ++ algorithm ++ [0x30, 0, 0x30, 26] ++ midnight ++ midnight ++
    [0x30, 0, 0x30, 9] ++ algorithm ++ key ++ algorithm ++ key

def sampleLeaf : Certificate where
  der := sampleDer
  body := (X509.ofBytes? sampleDer).get (by decide +kernel)
  body_eq := (Option.some_get _).symm

def sampleRole : Role where
  entityId := "https://idp.example"
  name := .bare "IDPSSODescriptor"
  protocols := ["SAML"]
  keys := [⟨.signing, [sampleLeaf]⟩]

def sampleCall : Call where
  now := .ofSecond 0
  message := ⟨.bare "Response", none, none, none, some (.named "https://idp.example"), some "SAML"⟩
  request :=
    (Request.ofUrl "POST" "https://sp.example/acs").toOption.map (·.withCertificate sampleLeaf)
  rules := [.clientCertificate {}, .messageExtraction, .clientCertificate {}]
  directory := some (Directory.ofList [sampleRole]).provider
  replays := none

/-- A policy that has seen the call is authenticated still after it has forgotten the message. -/
def sampleRun : Policy :=
  afterAll { role := some (.bare "IDPSSODescriptor") } [.evaluate sampleCall, .reset true]

theorem sampleRun_authenticated :
    sampleRun.findings.authenticated = true ∧
      ∃ i r, sampleRun.findings.issuer = some i ∧ sampleRun.findings.issuerMetadata = some r ∧
        r.entityId = i.name ∧ ∃ c leaf, Remembers [.evaluate sampleCall, .reset true] c ∧
          c.Presents leaf ∧ r.Publishes leaf.publicKey := by
  have authenticated : sampleRun.findings.authenticated = true := by decide +kernel
  refine ⟨authenticated, authenticated_by_published_key rfl rfl ?_ authenticated⟩
  intro c made
  obtain rfl : c = sampleCall := by simpa using made
  decide

end Policy

end Gatehouse
