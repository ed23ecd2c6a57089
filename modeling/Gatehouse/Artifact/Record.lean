import Gatehouse.Artifact
import Gatehouse.Json.Reader
import Gatehouse.Json.Record
import Gatehouse.Json.Writer
import Gatehouse.Time.Lenient
import Gatehouse.Time.Rfc3339

/-! # Artifact records

What an artifact map keeps in storage for an artifact: the text of the message, the one relying
party that may redeem the artifact, if there is such a restriction, and when the offer ends. It is
stored as JSON text.
-/

namespace Gatehouse

structure ArtifactRecord where
  content : String
  relyingParty : Option String
  expires : Instant
  deriving DecidableEq

namespace ArtifactRecord

/-- The record form. An absent relying party is left out. -/
def toJson (r : ArtifactRecord) : Json :=
  .object (("content", .string r.content) ::
    (r.relyingParty.toList.map fun name => ("relying_party", .string name)) ++
    [("expires", .string (Rfc3339.write r.expires))])

def encode (r : ArtifactRecord) : String :=
  r.toJson.write

/-- Reads the record form: an object, or the three values in an array. -/
def ofJson? (j : Json) : Option ArtifactRecord := do
  let [content, relyingParty, expires] ← j.fields? ["content", "relying_party", "expires"] 3 | none
  return ⟨← (← content).string?,
    ← Json.orDefault? (Json.nullable? Json.string?) none relyingParty,
    ← Lenient.read? (← (← expires).string?)⟩

def decode (text : String) : Except Error ArtifactRecord :=
  match (Json.read? text).bind ofJson? with
  | some r => .ok r
  | none => .error (.storage .recordEncoding)

end ArtifactRecord

end Gatehouse
