import Gatehouse.Credential.Certificate
import Gatehouse.Diagnostics.Outline

/-! # Certificates in diagnostics

The outline of a certificate: whose it is and how many bytes it takes.
-/

namespace Gatehouse

def Certificate.outline (c : Certificate) : Outline :=
  .record "Certificate"
    [("subject", .present (.quoted c.subject)), ("len", .plain (toString c.der.length))] true

end Gatehouse
