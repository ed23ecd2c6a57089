import Gatehouse.Asn1.Indefinite
import Gatehouse.Asn1.Time
import Gatehouse.Credential.DistinguishedName

/-! # X.509 certificates

The structure of a certificate, as far as it is looked at: its subject and its public key. The
structure is checked throughout; the signature, the validity period and the key are not. Bytes after
the certificate, and bytes at the end of most of its parts, are passed over.
-/

namespace Gatehouse

structure X509 where
  subject : DistinguishedName
  /-- The element that holds the public key, from its tag to the end of its key. -/
  publicKeyInfo : Bytes
  deriving DecidableEq

namespace X509

open Der

/-- The parameters of an algorithm, an element of any kind. -/
def readParameters : Reader Unit := fun s =>
  (read s).map fun (_, s) => ((), s)

/-- An algorithm: a sequence of an object identifier and parameters, which may be left out. -/
def readAlgorithm : Reader Unit := fun s => do
  let (content, s) ← readSequence s
  let (_, content) ← readOid content
  let _ ← optional (fun _ => true) readParameters content
  return ((), s)

/-- The version, which may be left out. -/
def readVersion : Reader Unit := fun s => do
  let (e, rest) ← read s
  if e.tagClass = .context ∧ e.tag = 0 then
    let (version, _) ← read e.content
    if version.tag = 2 ∧ version.constructed = false ∧ isWord version.content then
      return ((), rest)
    else none
  else return ((), s)

def readValidity : Reader Unit := fun s => do
  let (content, s) ← readSequence s
  let (_, content) ← readTime content
  let _ ← readTime content
  return ((), s)

/-- The public key with its algorithm, as the bytes that it is written in. -/
def readPublicKeyInfo : Reader Bytes := fun s => do
  let (content, rest) ← readSequence s
  let (_, content) ← readAlgorithm content
  let (_, content) ← readBitString content
  return (s.take (s.length - rest.length - content.length), rest)

/-- A unique identifier: a bit string under a given tag, which may be left out. -/
def readUniqueId (tag : Nat) : Reader Unit :=
  optional (fun t => t = tag) fun s => do
    let (e, s) ← read s
    if e.tagClass = .context ∧ e.constructed = false ∧ isBitString e.content then return ((), s)
    else none

/-- Whether an extension is critical, which may be left out. -/
def readCritical (s : Bytes) : Bytes :=
  match read s with
  | some (e, rest) => if e.tag = 1 ∧ e.content.length = 1 then rest else s
  | none => s

/-- An extension: an object identifier, perhaps a mark that it is critical, and a value. -/
def readExtension : Reader Unit := fun s => do
  let (content, s) ← readSequence s
  let (_, content) ← readOid content
  let (value, _) ← read (readCritical content)
  if value.tag = 4 ∧ value.constructed = false then return ((), s) else none

/-- Whether what is left of a certificate's body is nothing, or extensions under the tag 3. The
length that stands beside the tag does not matter. -/
def areExtensions (s : Bytes) : Bool :=
  s.isEmpty ||
    match readHeader s with
    | none => false
    | some (h, rest) =>
      h.tag = 3 &&
        match readSequence rest with
        | none => false
        | some (content, _) => (many readExtension content).2.isEmpty

/-- The fields of a certificate's body that stand before its public key, the last one of which is
the subject. -/
def readUpToKey : Reader DistinguishedName := fun s => do
  let (_, s) ← readVersion s
  let (_, s) ← readAnyTagged 2 s
  let (_, s) ← readAlgorithm s
  let (_, s) ← DistinguishedName.read s
  let (_, s) ← readValidity s
  DistinguishedName.read s

/-- The body of a certificate, the part that is signed. -/
def readBody : Reader X509 := fun s => do
  let (content, s) ← readSequence s
  let (subject, content) ← readUpToKey content
  let (key, content) ← readPublicKeyInfo content
  let (_, content) ← readUniqueId 1 content
  let (_, content) ← readUniqueId 2 content
  if areExtensions content then return (⟨subject, key⟩, s) else none

def read : Reader X509 := fun s => do
  let (content, s) ← readSequence s
  let (certificate, content) ← readBody content
  let (_, content) ← readAlgorithm content
  let _ ← readBitString content
  return (certificate, s)

/-- The certificate at the start of a byte string. -/
def ofBytes? (s : Bytes) : Option X509 :=
  (read s).map Prod.fst

end X509

end Gatehouse
