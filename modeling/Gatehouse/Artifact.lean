import Gatehouse.Bytes.Base64
import Gatehouse.Bytes.Sha1
import Gatehouse.Error
import Gatehouse.Text.Blank

/-! # Artifacts

An artifact is a small binary reference to a message, sent in its place and later redeemed for it.
It begins with a type code of two bytes, after which the types differ: 0001 has a source ID and a
handle, 0002 a handle and the URL of the sender's resolution service, and 0004 an endpoint index, a
source ID and a handle. A source ID is the SHA-1 digest of the sender's entity ID.
-/

namespace Gatehouse

abbrev SourceId := Octets 20

abbrev Handle := Octets 20

def SourceId.ofEntity (entityId : String) : SourceId :=
  Sha1.digest (Bytes.ofString entityId)

inductive Artifact where
  | type0001 (source : SourceId) (handle : Handle)
  | type0002 (handle : Handle) (location : String)
  | type0004 (endpointIndex : UInt16) (source : SourceId) (handle : Handle)
  deriving DecidableEq

namespace Artifact

def handle? (bytes : Bytes) : Except Error Handle :=
  match Octets.ofBytes? 20 bytes with
  | some handle => .ok handle
  | none => .error (.invalidArtifact (.handleLength bytes.length))

def ofEntity0001 (entityId : String) (handle : Handle) : Artifact :=
  .type0001 (SourceId.ofEntity entityId) handle

/-- A type 0002 artifact of a resolution service, whose location may not be empty. -/
def ofLocation0002 (location : String) (handle : Bytes) : Except Error Artifact :=
  if location.isEmpty then .error (.invalidArtifact .locationRequired)
  else (handle? handle).map fun handle => .type0002 handle location

def ofEntity0004 (entityId : String) (endpointIndex : UInt16) (handle : Bytes) :
    Except Error Artifact :=
  (handle? handle).map fun handle => .type0004 endpointIndex (SourceId.ofEntity entityId) handle

def typeCode : Artifact → Bytes
  | .type0001 .. => [0, 1]
  | .type0002 .. => [0, 2]
  | .type0004 .. => [0, 4]

/-- A number of two bytes, the more significant one first. -/
def indexBytes (n : UInt16) : Bytes :=
  [UInt8.ofNat (n.toNat / 256), UInt8.ofNat (n.toNat % 256)]

def toBytes (a : Artifact) : Bytes :=
  a.typeCode ++
    match a with
    | .type0001 source handle => source.bytes ++ handle.bytes
    | .type0002 handle location => handle.bytes ++ Bytes.ofString location
    | .type0004 index source handle => indexBytes index ++ source.bytes ++ handle.bytes

def refuse {α : Type} (fault : ArtifactFault) : Except Error α :=
  .error (.invalidArtifact fault)

def read0001 (rest : Bytes) : Except Error Artifact :=
  match Octets.ofBytes? 20 (rest.take 20), Octets.ofBytes? 20 (rest.drop 20) with
  | some source, some handle => .ok (.type0001 source handle)
  | _, _ => refuse (.wrongLength [0, 1] rest.length 40)

def read0002 (rest : Bytes) : Except Error Artifact :=
  if (rest.drop 20).isEmpty then refuse .missingLocation
  else match Octets.ofBytes? 20 (rest.take 20), Bytes.toString? (rest.drop 20) with
    | some handle, some location => .ok (.type0002 handle location)
    | _, _ => refuse .locationNotUtf8

def read0004 (rest : Bytes) : Except Error Artifact :=
  match rest with
  | hi :: lo :: more =>
    match Octets.ofBytes? 20 (more.take 20), Octets.ofBytes? 20 (more.drop 20) with
    | some source, some handle =>
      .ok (.type0004 (UInt16.ofNat (hi.toNat * 256 + lo.toNat)) source handle)
    | _, _ => refuse (.wrongLength [0, 4] rest.length 42)
  | _ => refuse (.wrongLength [0, 4] rest.length 42)

def ofBytes : Bytes → Except Error Artifact
  | hi :: lo :: rest =>
    if hi = 0 ∧ lo = 1 then read0001 rest
    else if hi = 0 ∧ lo = 2 then read0002 rest
    else if hi = 0 ∧ lo = 4 then read0004 rest
    else refuse (.unknownType [hi, lo])
  | _ => refuse .tooShort

/-- The text form: the wire form in base64. -/
def encode (a : Artifact) : String :=
  Base64.encode a.toBytes

/-- Reads the text form, white space around it dropped. -/
def parse (text : String) : Except Error Artifact :=
  match Base64.decode (Text.trimmed text) with
  | some bytes => ofBytes bytes
  | none => .error (.base64 "not canonical base64")

def handle : Artifact → Handle
  | .type0001 _ handle => handle
  | .type0002 handle _ => handle
  | .type0004 _ _ handle => handle

/-- What identifies the sender: its source ID in hexadecimal, or its location. -/
def source : Artifact → String
  | .type0001 source _ => Hex.encode source.bytes
  | .type0002 _ location => location
  | .type0004 _ source _ => Hex.encode source.bytes

def endpointIndex? : Artifact → Option UInt16
  | .type0004 index _ _ => some index
  | _ => none

/-- Whether an entity issued the artifact. Type 0002 does not tell. -/
def isFrom (a : Artifact) (entityId : String) : Bool :=
  match a with
  | .type0001 source _ => source = SourceId.ofEntity entityId
  | .type0002 .. => false
  | .type0004 _ source _ => source = SourceId.ofEntity entityId

end Artifact

end Gatehouse
