import Gatehouse.Artifact.Record
import Gatehouse.Proofs.Json.Writing
import Gatehouse.Proofs.Time.Timestamp

/-! # Artifact records read back

What is stored for an artifact reads as the record that was stored, whatever its texts contain.
-/

namespace Gatehouse.ArtifactRecord

open Json

def fields (r : ArtifactRecord) : List (String × String) :=
  ("content", r.content) :: (r.relyingParty.toList.map fun name => ("relying_party", name)) ++
    [("expires", Rfc3339.write r.expires)]

theorem toJson_eq (r : ArtifactRecord) : r.toJson = .object (texts r.fields) := by
  simp [toJson, fields, texts]

theorem ofJson?_texts (r : ArtifactRecord) : ofJson? (.object (texts r.fields)) = some r := by
  obtain ⟨content, relyingParty, expires⟩ := r
  cases relyingParty with
  | none =>
      have parts : fields? ["content", "relying_party", "expires"] 3
          (.object (texts (fields ⟨content, none, expires⟩))) =
          some [some (.string content), none, some (.string (Rfc3339.write expires))] := by
        simp [fields?, fields, texts, values]
      simp [ofJson?, parts, orDefault?, string?, Lenient.read?_write]
  | some name =>
      have parts : fields? ["content", "relying_party", "expires"] 3
          (.object (texts (fields ⟨content, some name, expires⟩))) =
          some [some (.string content), some (.string name),
            some (.string (Rfc3339.write expires))] := by
        simp [fields?, fields, texts, values]
      simp [ofJson?, parts, orDefault?, nullable?, string?, Lenient.read?_write]

/-- A record reads as it was written. -/
theorem decode_encode (r : ArtifactRecord) : decode r.encode = .ok r := by
  rw [decode, encode, toJson_eq, read?_write_texts, Option.bind_some, ofJson?_texts]

end Gatehouse.ArtifactRecord
