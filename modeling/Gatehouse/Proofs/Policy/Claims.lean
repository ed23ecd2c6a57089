import Gatehouse.Proofs.Policy.Actions

/-! # Claims and their order

The standard comparison is equality of what issuers say, the defaults of what they leave out filled
in. A name alone therefore claims what an issuer of that name claims that says nothing else, and
whether several claims agree with each other is the same in every order that they are made in.
-/

namespace Gatehouse

/-- What an issuer says, with the defaults of what it leaves out. -/
def Issuer.identity (i : Issuer) : String × String × String × String :=
  (i.name, i.effectiveFormat, i.nameQualifier.getD "", i.spNameQualifier.getD "")

namespace IssuerMatching

variable {a b : Issuer} {name : String}

theorem standard_agrees_iff :
    standard.agrees (some a) (some b) = true ↔ a.identity = b.identity := by
  simp only [standard, strictAgrees, Issuer.identity, Bool.and_eq_true, decide_eq_true_eq,
    Prod.mk.injEq, and_assoc]

theorem isEntity_of_identity (same : a.identity = b.identity) : a.isEntity = b.isEntity := by
  have format : a.effectiveFormat = b.effectiveFormat := congrArg (fun said => said.2.1) same
  rw [Issuer.isEntity, Issuer.isEntity, format]

theorem standard_agreesWithName_iff (named : name ≠ "") :
    standard.agreesWithName (some a) name = true ↔ a.identity = (Issuer.named name).identity := by
  have word : name.isEmpty = false := by simpa using named
  simp only [standard, strictAgreesWithName, word, Bool.false_or, Issuer.isEntity, Issuer.identity,
    Bool.and_eq_true, decide_eq_true_eq, String.isEmpty_iff, Prod.mk.injEq, and_assoc]
  rfl

/-- A name is compared like the issuer of that name that says nothing else. -/
theorem standard_agreesWithName (existing : Option Issuer) (named : name ≠ "") :
    standard.agreesWithName existing name = standard.agrees existing (some (.named name)) := by
  cases existing with
  | none => rfl
  | some i => rw [Bool.eq_iff_iff, standard_agreesWithName_iff named, standard_agrees_iff]

end IssuerMatching

namespace Policy

open IssuerMatching (standard_agrees_iff isEntity_of_identity standard_agreesWithName_iff
  standard_agreesWithName)

variable {p q r : Policy} {i j : Issuer} {name : String}

/-! ## A name alone -/

theorem claimIssuer_known (standard : p.matching = .standard)
    (known : p.findings.issuer = some i) :
    p.claimIssuer j = if i.identity = j.identity then .ok p
      else .error (.issuerConflict i.text j.text) := by
  simp only [claimIssuer, known, standard, standard_agrees_iff]

theorem claimIssuer_unknown (unknown : p.findings.issuer = none) :
    p.claimIssuer j = if p.requireEntityIssuer = true → j.isEntity = true then .ok (p.withIssuer j)
      else .error (.nonEntityIssuer j.text) := by
  simp only [claimIssuer, unknown]
  cases p.requireEntityIssuer <;> cases j.isEntity <;> rfl

theorem text_named (name : String) : (Issuer.named name).text = name := by
  rw [Issuer.text, isEntity_named, if_pos rfl]
  rfl

theorem identity_entity (name : String) :
    (Issuer.entity name).identity = (Issuer.named name).identity :=
  rfl

/-- A claim by name is the claim of the issuer of that name that says nothing else. -/
theorem claimIssuerName_eq (standard : p.matching = .standard) (named : name ≠ "") :
    p.claimIssuerName name = p.claimIssuer (.named name) := by
  have word : name.isEmpty = false := by simpa using named
  simp only [claimIssuerName, word, Bool.false_eq_true, if_false]
  cases known : p.findings.issuer with
  | none => rw [claimIssuer_unknown known, if_pos fun _ => isEntity_named name]
  | some i =>
      rw [claimIssuer_known standard known, text_named]
      simp only [standard, standard_agreesWithName_iff named]

/-- A claim by name has the result of the claim of the issuer of that name that says nothing else,
down to the wording of a conflict, and leaves the same policy. So has the claim of an entity of that
name, but the issuer that it puts on record states its format. -/
theorem name_alone_claims_issuer (standard : p.matching = .standard) (named : name ≠ "") :
    p.claimIssuerName name = p.claimIssuer (.named name) ∧
    p.perform (.claimIssuerName name) = p.perform (.claimIssuer (.named name)) ∧
    (∀ i, p.findings.issuer = some i → p.claimIssuer (.entity name) = p.claimIssuerName name) ∧
    (p.findings.issuer = none →
      p.claimIssuerName name = .ok (p.withIssuer (.named name)) ∧
        p.claimIssuer (.entity name) = .ok (p.withIssuer
          { Issuer.named name with format := some Saml.NameFormat.entity.uri })) ∧
    ∀ existing, IssuerMatching.standard.agreesWithName existing name =
      IssuerMatching.standard.agrees existing (some (.named name)) := by
  have same := claimIssuerName_eq standard named
  have text : (Issuer.entity name).text = name := by
    rw [Issuer.text, isEntity_of_identity (identity_entity name), isEntity_named]
    rfl
  constructor
  · exact same
  constructor
  · rw [perform, perform, same]
  constructor
  · intro i known
    rw [same, claimIssuer_known standard known, claimIssuer_known standard known, text, text_named,
      identity_entity]
  constructor
  · intro unknown
    have entity := isEntity_of_identity (identity_entity name)
    rw [same, claimIssuer_unknown unknown, claimIssuer_unknown unknown, entity, isEntity_named]
    exact ⟨if_pos fun _ => rfl, if_pos fun _ => rfl⟩
  · intro existing
    exact standard_agreesWithName existing named

/-- A policy that knows its issuer with a qualifier. -/
def qualified : Policy :=
  { findings := { issuer := some { Issuer.named "https://idp.example" with
      nameQualifier := some "example" } } }

/-- A qualifier is missed in every form of the claim, and in the same words. -/
theorem qualified_name_conflicts :
    qualified.matching = .standard ∧ "https://idp.example" ≠ "" ∧
      qualified.claimIssuerName "https://idp.example" =
        .error (.issuerConflict "https://idp.example" "https://idp.example") ∧
      qualified.claimIssuer (.named "https://idp.example") =
        .error (.issuerConflict "https://idp.example" "https://idp.example") ∧
      qualified.claimIssuer (.entity "https://idp.example") =
        .error (.issuerConflict "https://idp.example" "https://idp.example") := by
  have named : "https://idp.example" ≠ "" := by decide
  obtain ⟨same, -, entity, -⟩ := name_alone_claims_issuer (p := qualified) rfl named
  have conflict : qualified.claimIssuerName "https://idp.example" =
      .error (.issuerConflict "https://idp.example" "https://idp.example") := rfl
  exact ⟨rfl, named, conflict, same.symm.trans conflict, (entity _ rfl).trans conflict⟩

/-! ## Several claims -/

/-- A claim about the issuer, in full or by name alone. -/
inductive Claim where
  | issuer (i : Issuer)
  | name (name : String)

/-- The issuer that is claimed. An empty name claims nothing. -/
def Claim.issuer? : Claim → Option Issuer
  | .issuer i => some i
  | .name name => if name.isEmpty then none else some (.named name)

def claim (p : Policy) : Claim → Except Error Policy
  | .issuer i => p.claimIssuer i
  | .name name => p.claimIssuerName name

/-- Makes claims one after the other, until one is refused. -/
def claimAll (p : Policy) (claims : List Claim) : Except Error Policy :=
  claims.foldlM claim p

def claimed (claims : List Claim) : List Issuer :=
  claims.filterMap Claim.issuer?

/-- Whether some issuers say the same, and are entities where they have to be. -/
structure Consistent (required : Bool) (issuers : List Issuer) : Prop where
  same : ∀ i ∈ issuers, ∀ j ∈ issuers, i.identity = j.identity
  entity : required = true → ∀ i ∈ issuers, i.isEntity = true

variable {c : Claim} {claims reordered : List Claim} {issuers : List Issuer} {required : Bool}

theorem claim_eq (standard : p.matching = .standard) (c : Claim) :
    p.claim c = match c.issuer? with
      | none => .ok p
      | some i => p.claimIssuer i := by
  cases c with
  | issuer i => rfl
  | name name =>
      cases empty : name.isEmpty with
      | true => simp only [claim, Claim.issuer?, claimIssuerName, empty, if_true]
      | false =>
          have named : name ≠ "" := by simpa using empty
          simp only [claim, Claim.issuer?, claimIssuerName_eq standard named, empty,
            Bool.false_eq_true, if_false]

theorem claimAll_cons (p : Policy) (c : Claim) (claims : List Claim) :
    p.claimAll (c :: claims) = (p.claim c).bind (·.claimAll claims) :=
  List.foldlM_cons

theorem claimAll_known (standard : p.matching = .standard)
    (known : p.findings.issuer = some i) :
    p.claimAll claims = .ok q ↔ q = p ∧ ∀ j ∈ claimed claims, i.identity = j.identity := by
  -- The policy stays as it is, so all claims are compared with the one issuer on record.
  induction claims with
  | nil => simp [claimAll, claimed, pure, Except.pure, eq_comm]
  | cons c claims ih =>
      rw [claimAll_cons, claim_eq standard, claimed, List.filterMap_cons]
      cases c.issuer? with
      | none => exact ih
      | some j =>
          simp only [claimIssuer_known standard known]
          by_cases same : i.identity = j.identity
          · simp [same, Except.bind, ih, claimed]
          · simp [same, Except.bind]

theorem claimAll_unknown (standard : p.matching = .standard)
    (unknown : p.findings.issuer = none) :
    p.claimAll claims = .ok q ↔
      match claimed claims with
      | [] => q = p
      | i :: rest => (p.requireEntityIssuer = true → i.isEntity = true) ∧ q = p.withIssuer i ∧
          ∀ j ∈ rest, i.identity = j.identity := by
  -- Claims of nothing are passed over up to the first that names an issuer.
  induction claims with
  | nil => simp [claimAll, claimed, pure, Except.pure, eq_comm]
  | cons c claims ih =>
      rw [claimAll_cons, claim_eq standard, claimed, List.filterMap_cons]
      cases c.issuer? with
      | none => exact ih
      | some i =>
          simp only [claimIssuer_unknown unknown]
          by_cases allowed : p.requireEntityIssuer = true → i.isEntity = true
          · have next : (p.withIssuer i).findings.issuer = some i := rfl
            rw [if_pos allowed, and_iff_right allowed]
            exact claimAll_known standard next
          · rw [if_neg allowed]
            simp [Except.bind, allowed]

theorem consistent_cons : Consistent required (i :: issuers) ↔
    (required = true → i.isEntity = true) ∧ ∀ j ∈ issuers, i.identity = j.identity := by
  constructor
  · intro consistent
    exact ⟨fun needed => consistent.entity needed i List.mem_cons_self,
      fun j mem => consistent.same i List.mem_cons_self j (List.mem_cons_of_mem i mem)⟩
  · intro ⟨entity, rest⟩
    have all : ∀ j ∈ i :: issuers, i.identity = j.identity := List.forall_mem_cons.2 ⟨rfl, rest⟩
    constructor
    · intro j mem k mem'
      exact (all j mem).symm.trans (all k mem')
    · intro needed j mem
      exact (isEntity_of_identity (all j mem)).symm.trans (entity needed)

/-- Claims are all accepted where no issuer is known exactly if the issuers that they name are
consistent, and the first of them is then on record. -/
theorem claimAll_eq_ok_iff (standard : p.matching = .standard)
    (unknown : p.findings.issuer = none) :
    p.claimAll claims = .ok q ↔ Consistent p.requireEntityIssuer (claimed claims) ∧
      q = (claimed claims).head?.elim p p.withIssuer := by
  rw [claimAll_unknown standard unknown]
  cases claimed claims with
  | nil => exact (and_iff_right ⟨by simp, by simp⟩).symm
  | cons i rest =>
      rw [consistent_cons]
      constructor
      · intro ⟨entity, last, same⟩
        exact ⟨⟨entity, same⟩, last⟩
      · intro ⟨⟨entity, same⟩, last⟩
        exact ⟨entity, last, same⟩

theorem Consistent.perm (consistent : Consistent required issuers) {others : List Issuer}
    (order : issuers.Perm others) : Consistent required others := by
  constructor
  · intro i mem j mem'
    exact consistent.same i (order.mem_iff.2 mem) j (order.mem_iff.2 mem')
  · intro needed i mem
    exact consistent.entity needed i (order.mem_iff.2 mem)

/-- Whichever of consistent issuers comes first, it agrees with the others. -/
theorem Consistent.heads_agree (consistent : Consistent required issuers) {others : List Issuer}
    (order : issuers.Perm others) :
    IssuerMatching.standard.agrees issuers.head? others.head? = true ∧
      (issuers.head? = none ↔ others.head? = none) := by
  cases issuers with
  | nil => rw [List.nil_perm.1 order]; exact ⟨rfl, Iff.rfl⟩
  | cons i rest =>
      cases others with
      | nil => cases List.perm_nil.1 order
      | cons j others =>
          have mem : j ∈ i :: rest := order.mem_iff.2 List.mem_cons_self
          have same := consistent.same i List.mem_cons_self j mem
          exact ⟨standard_agrees_iff.2 same, by simp⟩

theorem recorded_of_claimAll (standard : p.matching = .standard)
    (unknown : p.findings.issuer = none) (accepted : p.claimAll claims = .ok q) :
    q.findings.issuer = (claimed claims).head? := by
  obtain ⟨-, rfl⟩ := (claimAll_eq_ok_iff standard unknown).1 accepted
  cases (claimed claims).head? with
  | none => exact unknown
  | some i => rfl

theorem claimAll_reordered (standard : p.matching = .standard) (unknown : p.findings.issuer = none)
    (order : claims.Perm reordered) (accepted : ∃ q, p.claimAll claims = .ok q) :
    ∃ r, p.claimAll reordered = .ok r := by
  obtain ⟨q, accepted⟩ := accepted
  obtain ⟨consistent, -⟩ := (claimAll_eq_ok_iff standard unknown).1 accepted
  exact ⟨_, (claimAll_eq_ok_iff standard unknown).2
    ⟨consistent.perm (order.filterMap Claim.issuer?), rfl⟩⟩

/-- Whether claims, in full or by name alone, are all accepted where no issuer is known is the same
in every order, and in any two orders the issuers that end up on record agree. The reason is that
to agree is an equivalence of issuers, which only takes entities together with entities. -/
theorem claims_in_any_order (standard : p.matching = .standard) (unknown : p.findings.issuer = none)
    (order : claims.Perm reordered) :
    ((∃ q, p.claimAll claims = .ok q) ↔ ∃ r, p.claimAll reordered = .ok r) ∧
    (∀ q r, p.claimAll claims = .ok q → p.claimAll reordered = .ok r →
      IssuerMatching.standard.agrees q.findings.issuer r.findings.issuer = true ∧
        (q.findings.issuer = none ↔ r.findings.issuer = none)) ∧
    Equivalence (fun a b => IssuerMatching.standard.agrees (some a) (some b) = true) ∧
    ∀ a b, IssuerMatching.standard.agrees (some a) (some b) = true → a.isEntity = b.isEntity := by
  constructor
  · exact ⟨claimAll_reordered standard unknown order,
      claimAll_reordered standard unknown order.symm⟩
  constructor
  · intro q r accepted accepted'
    obtain ⟨consistent, -⟩ := (claimAll_eq_ok_iff standard unknown).1 accepted
    rw [recorded_of_claimAll standard unknown accepted,
      recorded_of_claimAll standard unknown accepted']
    exact consistent.heads_agree (order.filterMap Claim.issuer?)
  · simp only [standard_agrees_iff]
    exact ⟨⟨fun _ => rfl, Eq.symm, Eq.trans⟩, fun a b => isEntity_of_identity⟩

/-- One issuer in four spellings, and a claim of nothing. -/
def sampleClaim : List Claim :=
  [.name "", .issuer { Issuer.named "https://idp.example" with nameQualifier := some "" },
    .name "https://idp.example", .issuer (.entity "https://idp.example"),
    .issuer (.named "https://idp.example")]

/-- The same claims put another spelling on record when they are made the other way round. -/
theorem sampleClaim_reversed :
    ({} : Policy).matching = .standard ∧ ({} : Policy).findings.issuer = none ∧
      sampleClaim.Perm sampleClaim.reverse ∧
      ∃ q r, claimAll {} sampleClaim = .ok q ∧ claimAll {} sampleClaim.reverse = .ok r ∧
        q.findings.issuer ≠ r.findings.issuer ∧
        IssuerMatching.standard.agrees q.findings.issuer r.findings.issuer = true := by
  have order : sampleClaim.Perm sampleClaim.reverse := (List.reverse_perm sampleClaim).symm
  obtain ⟨both, agree, -⟩ := claims_in_any_order (p := {}) rfl rfl order
  have there : ∃ q, claimAll {} sampleClaim = .ok q := ⟨_, rfl⟩
  obtain ⟨q, forth⟩ := there
  obtain ⟨r, back⟩ := both.1 ⟨q, forth⟩
  have first := recorded_of_claimAll rfl rfl forth
  have last := recorded_of_claimAll rfl rfl back
  have other : q.findings.issuer ≠ r.findings.issuer := by
    rw [first, last]
    decide
  exact ⟨rfl, rfl, order, q, r, forth, back, other, (agree q r forth back).1⟩

end Policy

end Gatehouse
