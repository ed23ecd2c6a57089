import Gatehouse.Json.Record

/-! # Uses of a credential

What a published key may serve for, and what a credential is presented for.
-/

namespace Gatehouse

inductive Usage where
  /-- No use in particular, which goes with every other. -/
  | unspecified
  | signing
  | tls
  | encryption
  deriving DecidableEq, Repr

namespace Usage

/-- Whether a key published for one use may serve another. Authentication in TLS is signing, so
keys for signing serve both. -/
def permits : Usage → Usage → Bool
  | unspecified, _ => true
  | _, unspecified => true
  | signing, signing => true
  | signing, tls => true
  | tls, tls => true
  | encryption, encryption => true
  | _, _ => false

def ofText? (s : String) : Option Usage :=
  if s = "unspecified" then some unspecified
  else if s = "signing" then some signing
  else if s = "tls" then some tls
  else if s = "encryption" then some encryption
  else none

def ofJson? (j : Json) : Option Usage :=
  j.choice? >>= ofText?

def text : Usage → String
  | unspecified => "unspecified"
  | signing => "signing"
  | tls => "tls"
  | encryption => "encryption"

end Usage

end Gatehouse
