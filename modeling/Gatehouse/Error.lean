import Gatehouse.Bytes.Hex
import Gatehouse.Bytes.Basic

/-! # Errors

Why an operation failed, and what to tell the peer. Errors fall into three groups: policy
violations reject the message under evaluation, contract violations are a caller's mistake, and all
others report malformed input or a failing collaborator. Each cause has its wording here.
-/

namespace Gatehouse

/-- Why a store or a replay cache did not do what it was asked. -/
inductive StorageError where
  | connection (reason : String)
  | serialization (reason : String)
  /-- There is a record under this context and key. -/
  | duplicate (context key : String)
  | invalidKey (reason : String)
  | timeout
  | internal (reason : String)
  deriving DecidableEq, Repr

def StorageError.message : StorageError → String
  | connection reason => "storage connection error: " ++ reason
  | serialization reason => "storage serialization error: " ++ reason
  | duplicate context key => "record already exists: " ++ context ++ "/" ++ key
  | invalidKey reason => "invalid storage key: " ++ reason
  | timeout => "storage operation timed out"
  | internal reason => "internal storage error: " ++ reason

/-- What is wrong with an artifact. -/
inductive ArtifactFault where
  | tooShort
  /-- An artifact of fixed size has another number of bytes after its type code. -/
  | wrongLength (typeCode : Bytes) (actual expected : Nat)
  | missingLocation
  | locationNotUtf8
  | locationRequired
  | handleLength (actual : Nat)
  | unknownType (typeCode : Bytes)
  | other (reason : String)
  deriving DecidableEq, Repr

def ArtifactFault.message : ArtifactFault → String
  | tooShort => "artifact too short"
  | wrongLength typeCode actual expected =>
    "type 0x" ++ Hex.encode typeCode ++ " artifact has " ++ toString actual ++
      " bytes after the type code, expected " ++ toString expected
  | missingLocation => "type 0x0002 artifact is missing its source location"
  | locationNotUtf8 => "source location is not UTF-8"
  | locationRequired => "type 0x0002 artifact requires a source location"
  | handleLength actual => "handle must be 20 bytes, got " ++ toString actual
  | unknownType typeCode => "unknown artifact type code 0x" ++ Hex.encode typeCode
  | other reason => reason

inductive ConfigurationFault where
  | notAnInteger (name value : String)
  | unknownCacheChoice (value : String)
  | ignoreWithoutType
  | invalidTypeName (value : String)
  | unknownRuleType (value : String)
  | invalidUrl (value : String)
  | other (reason : String)
  deriving DecidableEq, Repr

def ConfigurationFault.message : ConfigurationFault → String
  | notAnInteger name value =>
    "attribute " ++ name ++ " must be a non-negative integer, got '" ++ value ++ "'"
  | unknownCacheChoice value =>
    "missingReplayCache must be 'reject' or 'skip', got '" ++ value ++ "'"
  | ignoreWithoutType => "Ignore rule requires a type attribute"
  | invalidTypeName value => "invalid type name '" ++ value ++ "'"
  | unknownRuleType value => "unknown policy rule type '" ++ value ++ "'"
  | invalidUrl value => "invalid request URL '" ++ value ++ "'"
  | other reason => reason

inductive XmlFault where
  | malformed
  | invalidInstant (value : String)
  | contentAfterRoot
  | textOutsideRoot
  | noRoot
  | unterminatedRoot
  | other (reason : String)
  deriving DecidableEq, Repr

def XmlFault.message : XmlFault → String
  | malformed => "malformed markup"
  | invalidInstant value => "invalid IssueInstant '" ++ value ++ "'"
  | contentAfterRoot => "content after the root element"
  | textOutsideRoot => "text outside the root element"
  | noRoot => "no root element"
  | unterminatedRoot => "unterminated root element"
  | other reason => reason

inductive CertificateFault where
  | unreadable
  | invalidPem
  | other (reason : String)
  deriving DecidableEq, Repr

def CertificateFault.message : CertificateFault → String
  | unreadable => "Failed to parse certificate"
  | invalidPem => "Invalid certificate PEM"
  | other reason => reason

inductive StorageFault where
  | backend (error : StorageError)
  /-- A record is not in the form that this library writes. -/
  | recordEncoding
  | other (reason : String)
  deriving DecidableEq, Repr

def StorageFault.message : StorageFault → String
  | backend error => error.message
  | recordEncoding => "record encoding"
  | other reason => reason

/-- Why an operation of the security layer failed. -/
inductive Error where
  | issuedInFuture
  | messageExpired
  | replayDetected (id : String)
  | replayCacheUnavailable
  | issuerConflict (expected actual : String)
  | nonEntityIssuer (issuer : String)
  | metadataConflict
  | transportCredentialRejected (reason : String)
  | artifactTrustViolation (expected actual : String)
  | contractViolation (reason : String)
  | invalidArtifact (fault : ArtifactFault)
  | configuration (fault : ConfigurationFault)
  | xml (fault : XmlFault)
  | base64 (reason : String)
  | certificate (fault : CertificateFault)
  | storage (fault : StorageFault)
  deriving DecidableEq, Repr

namespace Error

def ofStorage (e : StorageError) : Error :=
  .storage (.backend e)

def message : Error → String
  | issuedInFuture => "message rejected, was issued in the future"
  | messageExpired => "message expired, was issued too long ago"
  | replayDetected id => "rejecting replayed message ID (" ++ id ++ ")"
  | replayCacheUnavailable => "message rejected, no replay cache instance available"
  | issuerConflict expected actual =>
    "an issuer was supplied that conflicts with previous results: expected " ++ expected ++
      ", got " ++ actual
  | nonEntityIssuer issuer => "a non-entity issuer was supplied, violating policy: " ++ issuer
  | metadataConflict => "a rule supplied issuer metadata that conflicts with previous results"
  | transportCredentialRejected reason => "client certificate rejected: " ++ reason
  | artifactTrustViolation expected actual =>
    "artifact was issued to " ++ expected ++ ", but presented by " ++ actual
  | contractViolation reason => "contract violation: " ++ reason
  | invalidArtifact fault => "invalid artifact: " ++ fault.message
  | configuration fault => "configuration error: " ++ fault.message
  | xml fault => "XML parsing error: " ++ fault.message
  | base64 reason => "base64 decode error: " ++ reason
  | certificate fault => "crypto error: " ++ fault.message
  | storage fault => "storage error: " ++ fault.message

/-- Whether the error rejects the message under evaluation. -/
def isPolicyViolation : Error → Bool
  | issuedInFuture | messageExpired | replayDetected _ | replayCacheUnavailable
  | issuerConflict .. | nonEntityIssuer _ | metadataConflict | transportCredentialRejected _
  | artifactTrustViolation .. => true
  | _ => false

/-- The status code of a response that reports the error. -/
def statusCode : Error → String
  | issuedInFuture | messageExpired | replayDetected _ | issuerConflict .. | nonEntityIssuer _
  | metadataConflict | transportCredentialRejected _ | artifactTrustViolation ..
  | invalidArtifact _ | xml _ | base64 _ => "urn:oasis:names:tc:SAML:2.0:status:Requester"
  | _ => "urn:oasis:names:tc:SAML:2.0:status:Responder"

def subStatusCode : Error → Option String
  | transportCredentialRejected _ | artifactTrustViolation .. =>
    some "urn:oasis:names:tc:SAML:2.0:status:RequestDenied"
  | invalidArtifact _ => some "urn:oasis:names:tc:SAML:2.0:status:ResourceNotRecognized"
  | _ => none

def httpStatus : Error → Nat
  | invalidArtifact _ | base64 _ | xml _ | issuedInFuture | messageExpired | replayDetected _ => 400
  | transportCredentialRejected _ => 401
  | artifactTrustViolation .. | issuerConflict .. | nonEntityIssuer _ | metadataConflict => 403
  | _ => 500

end Error

end Gatehouse
