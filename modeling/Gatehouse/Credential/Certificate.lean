import Gatehouse.Bytes.Base64
import Gatehouse.Credential.PublicKey
import Gatehouse.Error
import Gatehouse.Text.Blank
import Gatehouse.Text.Split

/-! # Certificates

A byte string that begins with an X.509 certificate, read from DER, from base64 or from a PEM block.
Two certificates are equal when their bytes are.
-/

namespace Gatehouse

structure Certificate where
  der : Bytes
  body : X509
  body_eq : X509.ofBytes? der = some body

namespace Certificate

theorem ext {a b : Certificate} (h : a.der = b.der) : a = b := by
  obtain ⟨da, ba, ha⟩ := a
  obtain ⟨db, bb, hb⟩ := b
  subst h
  obtain rfl : ba = bb := Option.some.inj (ha.symm.trans hb)
  rfl

instance : DecidableEq Certificate := fun a b =>
  decidable_of_iff (a.der = b.der) ⟨ext, fun h => h ▸ rfl⟩

def subject (c : Certificate) : String :=
  c.body.subject.text

/-- The bytes of the public key with its algorithm. -/
def publicKey (c : Certificate) : Bytes :=
  c.body.publicKeyInfo

/-- The public key is the element that the encoding holds for it, behind the subject. -/
theorem publicKey_held {c : Certificate} {key : Bytes} :
    X509.Holds c.der c.body.subject key ↔ key = c.publicKey :=
  (X509.holds_iff c.body_eq).trans (and_iff_right rfl)

def ofDer (der : Bytes) : Except Error Certificate :=
  match h : X509.ofBytes? der with
  | some body => .ok ⟨der, body, h⟩
  | none => .error (.certificate .unreadable)

/-- Reads the base64 text of DER, white space in it dropped. -/
def ofBase64 (text : String) : Except Error Certificate :=
  match Base64.decodeChars (text.toList.filter fun c => !Text.isBlank c) with
  | some der => ofDer der
  | none => .error (.base64 "not canonical base64")

def pemBegin : List Char :=
  "-----BEGIN CERTIFICATE-----".toList

def pemEnd : List Char :=
  "-----END CERTIFICATE-----".toList

/-- The text between the first opening line and the first closing line after it. -/
def pemBody? (text : List Char) : Option (List Char) := do
  let (_, rest) ← Text.splitAt? pemBegin text
  let (body, _) ← Text.splitAt? pemEnd rest
  return body

/-- The bytes that the first PEM block of a text holds. -/
def pemBytes? (text : List Char) : Option Bytes := do
  Base64.decodeChars ((← pemBody? text).filter fun c => !Text.isBlank c)

def ofPem (text : String) : Except Error Certificate :=
  match pemBytes? text.toList with
  | some der => ofDer der
  | none => .error (.certificate .invalidPem)

end Certificate

end Gatehouse
