import Gatehouse.Metadata.Role

/-! # Trust engines

A trust engine decides whether a certificate that a peer presents stands for the entity that a role
describes. What it is asked is a value of its own, so that an evaluation can tell afterwards which
questions it put.
-/

namespace Gatehouse

/-- What the credential is to be good for, and whose it should be if that is known. -/
structure Criteria where
  peerName : Option String := none
  usage : Usage := .unspecified
  deriving DecidableEq

/-- Whether the leaf of a chain stands for the entity of a role. The chain includes the leaf. -/
structure TrustQuestion where
  leaf : Certificate
  chain : List Certificate
  role : Role
  criteria : Criteria
  deriving DecidableEq

structure TrustEngine where
  accepts : TrustQuestion → Bool

namespace TrustEngine

/-- Trusts a leaf whose public key the role publishes for the use in question, provided that the
peer's name, if it is given, is the role's entity. The rest of the chain does not count. -/
def explicitKey : TrustEngine where
  accepts q :=
    (q.criteria.peerName.all fun name => name = q.role.entityId) &&
      (q.role.certificatesFor q.criteria.usage).any fun c => c.publicKey = q.leaf.publicKey

/-- Gives the same verdict on every question. -/
def fixed (verdict : Bool) : TrustEngine where
  accepts _ := verdict

end TrustEngine

end Gatehouse
