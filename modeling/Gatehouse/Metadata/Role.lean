import Gatehouse.Credential.Certificate
import Gatehouse.Credential.Usage
import Gatehouse.QualifiedName

/-! # Roles

What metadata says about one role that an entity plays, such as identity provider: the protocols
that it supports there and the keys that it publishes for it.
-/

namespace Gatehouse

/-- Certificates whose keys are published for one use. -/
structure KeyDescriptor where
  usage : Usage
  certificates : List Certificate
  deriving DecidableEq

structure Role where
  entityId : String
  /-- The name of the role. -/
  name : QualifiedName
  protocols : List String
  keys : List KeyDescriptor
  deriving DecidableEq

namespace Role

def supports (r : Role) (protocol : String) : Bool :=
  protocol ∈ r.protocols

/-- The certificates whose keys may serve a use, in the order of their publication. -/
def certificatesFor (r : Role) (usage : Usage) : List Certificate :=
  (r.keys.filter fun k => k.usage.permits usage).flatMap KeyDescriptor.certificates

end Role

end Gatehouse
