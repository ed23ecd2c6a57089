/-! # SAML vocabulary

The namespaces, protocol identifiers and name formats that messages and metadata are compared
against.
-/

namespace Gatehouse.Saml

def assertion20 : String := "urn:oasis:names:tc:SAML:2.0:assertion"

/-- SAML 2.0 protocol messages, and the protocol that roles advertise for them. -/
def protocol20 : String := "urn:oasis:names:tc:SAML:2.0:protocol"

def metadata20 : String := "urn:oasis:names:tc:SAML:2.0:metadata"

def assertion1 : String := "urn:oasis:names:tc:SAML:1.0:assertion"

/-- SAML 1.x protocol messages, and the protocol that SAML 1.0 roles advertise. -/
def protocol10 : String := "urn:oasis:names:tc:SAML:1.0:protocol"

/-- The protocol that SAML 1.1 roles advertise. -/
def protocol11 : String := "urn:oasis:names:tc:SAML:1.1:protocol"

/-- The namespace of the attribute that declares a schema type. -/
def schemaInstance : String := "http://www.w3.org/2001/XMLSchema-instance"

/-- The formats of names that have an identifier here. -/
inductive NameFormat where
  /-- An entity of the federation. -/
  | entity
  /-- An opaque name that lasts across sessions. -/
  | persistent
  /-- An opaque name for one use. -/
  | transient
  | email
  deriving DecidableEq, Repr

def NameFormat.uri : NameFormat → String
  | entity => "urn:oasis:names:tc:SAML:2.0:nameid-format:entity"
  | persistent => "urn:oasis:names:tc:SAML:2.0:nameid-format:persistent"
  | transient => "urn:oasis:names:tc:SAML:2.0:nameid-format:transient"
  | email => "urn:oasis:names:tc:SAML:1.1:nameid-format:emailAddress"

end Gatehouse.Saml
