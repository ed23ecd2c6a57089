import Gatehouse.TrustEngine

/-! # Trust in published keys

A role publishes keys, each for a use. Whether a certificate is trusted is a question about these
keys as a set: in which order and in how many descriptors they stand makes no difference, and keys
that are published in addition never take trust away. Keys are the same if they are written in the
same bytes, those of the elements that the encodings of their certificates hold for them
(`Certificate.publicKey_held`).
-/

namespace Gatehouse

namespace KeyDescriptor

/-- The keys in a list of descriptors, each with the use that it is published for. -/
def published (ds : List KeyDescriptor) : List (Usage × Bytes) :=
  ds.flatMap fun d => d.certificates.map fun c => (d.usage, c.publicKey)

/-- Descriptors that stand in another order, are split or joined, or are repeated. -/
inductive Rearranged : List KeyDescriptor → List KeyDescriptor → Prop where
  | reordered {ds ds' : List KeyDescriptor} (same : ds.Perm ds') : Rearranged ds ds'
  | split (usage : Usage) (first second : List Certificate) (ds : List KeyDescriptor) :
    Rearranged (⟨usage, first ++ second⟩ :: ds) (⟨usage, first⟩ :: ⟨usage, second⟩ :: ds)
  | repeated {d : KeyDescriptor} {ds : List KeyDescriptor} (mem : d ∈ ds) :
    Rearranged ds (d :: ds)
  | back {ds ds' : List KeyDescriptor} (there : Rearranged ds ds') : Rearranged ds' ds
  | trans {ds ds' ds'' : List KeyDescriptor} (first : Rearranged ds ds')
    (second : Rearranged ds' ds'') : Rearranged ds ds''

variable {ds ds' : List KeyDescriptor} {usage wanted : Usage} {key : Bytes}

theorem mem_published : (usage, key) ∈ published ds ↔
    ∃ d ∈ ds, d.usage = usage ∧ ∃ c ∈ d.certificates, c.publicKey = key := by
  simp only [published, List.mem_flatMap, List.mem_map, Prod.mk.injEq]
  constructor
  · rintro ⟨d, listed, c, mem, same, rfl⟩
    exact ⟨d, listed, same, c, mem, rfl⟩
  · rintro ⟨d, listed, same, c, mem, rfl⟩
    exact ⟨d, listed, c, mem, same, rfl⟩

theorem published_cons (d : KeyDescriptor) (ds : List KeyDescriptor) :
    published (d :: ds) = (d.certificates.map fun c => (d.usage, c.publicKey)) ++ published ds :=
  List.flatMap_cons

/-- Rearranging descriptors changes no key and no use. -/
theorem Rearranged.mem_published {p : Usage × Bytes} (same : Rearranged ds ds') :
    p ∈ published ds ↔ p ∈ published ds' := by
  induction same with
  | reordered same => exact (same.flatMap_right _).mem_iff
  | split usage first second ds =>
      simp only [published_cons, List.map_append, List.append_assoc]
  | repeated mem =>
      rw [published_cons, List.mem_append]
      exact ⟨.inr, fun either => either.elim
        (fun own => List.mem_flatMap.2 ⟨_, mem, own⟩) id⟩
  | back _ ih => exact ih.symm
  | trans _ _ first second => exact first.trans second

theorem exists_published_iff : (∃ usage, usage.permits wanted = true ∧ (usage, key) ∈ published ds) ↔
    ∃ d ∈ ds, d.usage.permits wanted = true ∧ ∃ c ∈ d.certificates, c.publicKey = key := by
  simp only [KeyDescriptor.mem_published]
  constructor
  · rintro ⟨_, serves, d, listed, rfl, found⟩
    exact ⟨d, listed, serves, found⟩
  · rintro ⟨d, listed, serves, found⟩
    exact ⟨d.usage, serves, d, listed, rfl, found⟩

end KeyDescriptor

namespace Role

/-- The certificates for a use carry the keys that are published for one that permits it. -/
theorem any_certificatesFor {r : Role} {wanted : Usage} {key : Bytes} :
    ((r.certificatesFor wanted).any fun c => c.publicKey = key) = true ↔
      ∃ d ∈ r.keys, d.usage.permits wanted = true ∧ ∃ c ∈ d.certificates, c.publicKey = key := by
  simp only [certificatesFor, List.any_eq_true, List.mem_flatMap, List.mem_filter,
    decide_eq_true_eq]
  constructor
  · rintro ⟨c, ⟨d, ⟨listed, serves⟩, mem⟩, same⟩
    exact ⟨d, listed, serves, c, mem, same⟩
  · rintro ⟨d, listed, serves, c, mem, same⟩
    exact ⟨c, ⟨d, ⟨listed, serves⟩, mem⟩, same⟩

end Role

namespace TrustEngine

open KeyDescriptor (published Rearranged)

/-- What it is to trust the keys that a role publishes and to look at nothing else. -/
structure TrustsPublished (e : TrustEngine) : Prop where
  /-- A leaf is trusted if it is not somebody else's and the role publishes its key for the use. -/
  accepts_iff : ∀ q, e.accepts q = true ↔
    (q.criteria.peerName = none ∨ q.criteria.peerName = some q.role.entityId) ∧
      ∃ d ∈ q.role.keys, d.usage.permits q.criteria.usage = true ∧
        ∃ c ∈ d.certificates, c.publicKey = q.leaf.publicKey
  /-- Of the chain only the leaf counts, and of the leaf only the key. -/
  key_counts : ∀ leaf leaf' chain chain' role criteria, leaf.publicKey = leaf'.publicKey →
    e.accepts ⟨leaf, chain, role, criteria⟩ = e.accepts ⟨leaf', chain', role, criteria⟩
  rearranged : ∀ leaf chain role criteria keys, Rearranged role.keys keys →
    e.accepts ⟨leaf, chain, { role with keys := keys }, criteria⟩ =
      e.accepts ⟨leaf, chain, role, criteria⟩
  /-- Keys that are published in addition revoke nothing. -/
  kept : ∀ leaf chain role criteria keys, (∀ p ∈ published role.keys, p ∈ published keys) →
    e.accepts ⟨leaf, chain, role, criteria⟩ = true →
    e.accepts ⟨leaf, chain, { role with keys := keys }, criteria⟩ = true
  /-- A key that is published for encryption alone authenticates nobody. -/
  encryption_only : ∀ q,
    (∀ usage, (usage, q.leaf.publicKey) ∈ published q.role.keys → usage = .encryption) →
    q.criteria.usage = .tls ∨ q.criteria.usage = .signing → e.accepts q = false

theorem explicitKey_accepts_iff (q : TrustQuestion) : explicitKey.accepts q = true ↔
    (q.criteria.peerName = none ∨ q.criteria.peerName = some q.role.entityId) ∧
      ∃ usage, usage.permits q.criteria.usage = true ∧
        (usage, q.leaf.publicKey) ∈ published q.role.keys := by
  have owned : (q.criteria.peerName.all fun name => name = q.role.entityId) = true ↔
      q.criteria.peerName = none ∨ q.criteria.peerName = some q.role.entityId := by
    cases q.criteria.peerName <;> simp
  rw [explicitKey, Bool.and_eq_true, owned, Role.any_certificatesFor,
    KeyDescriptor.exists_published_iff]

/-- Trust in published keys is membership in the set of them. -/
theorem explicitKey_trusts_published : TrustsPublished explicitKey where
  accepts_iff q := by
    rw [explicitKey_accepts_iff, KeyDescriptor.exists_published_iff]
  key_counts leaf leaf' chain chain' role criteria same := by
    rw [Bool.eq_iff_iff, explicitKey_accepts_iff, explicitKey_accepts_iff, same]
  rearranged leaf chain role criteria keys same := by
    rw [Bool.eq_iff_iff, explicitKey_accepts_iff, explicitKey_accepts_iff]
    simp only [same.mem_published]
  kept leaf chain role criteria keys more accepted := by
    obtain ⟨owned, usage, serves, listed⟩ := (explicitKey_accepts_iff _).1 accepted
    exact (explicitKey_accepts_iff _).2 ⟨owned, usage, serves, more _ listed⟩
  encryption_only q only wanted := by
    rw [← Bool.not_eq_true, explicitKey_accepts_iff]
    rintro ⟨-, usage, serves, listed⟩
    rw [only usage listed] at serves
    rcases wanted with wanted | wanted <;> rw [wanted] at serves <;> cases serves

end TrustEngine

end Gatehouse
