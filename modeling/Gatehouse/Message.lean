import Gatehouse.Issuer
import Gatehouse.QualifiedName
import Gatehouse.Time.Instant

/-! # Messages

What the rules of a policy read from a protocol message: its header values. How the message came to
be decoded, and what else it carries, does not matter here.
-/

namespace Gatehouse

structure Message where
  element : QualifiedName
  /-- The schema type that the element declares. -/
  schemaType : Option QualifiedName
  id : Option String
  issued : Option Instant
  issuer : Option Issuer
  /-- The protocol, as roles advertise it. -/
  protocol : Option String
  deriving DecidableEq

end Gatehouse
