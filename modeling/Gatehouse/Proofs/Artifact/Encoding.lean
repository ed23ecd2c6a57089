import Gatehouse.Proofs.Artifact.Memory
import Gatehouse.Proofs.Artifact.Redemption

/-! # The text of an artifact record

The text that a map has its storage keep holds each part of the record in a field of its own. The
storage gives it back as it was, and it reads as the record: no message and no name can be written
so that it is taken for another field.
-/

namespace Gatehouse.ArtifactRecord

open Json

theorem encode_inj {r r' : ArtifactRecord} : r'.encode = r.encode ↔ r' = r := by
  constructor
  · intro same
    have read := congrArg decode same
    rw [decode_encode, decode_encode] at read
    exact Except.ok.inj read
  · rintro rfl
    rfl

/-- Whether a text is that of an object whose fields are the parts of a record, each once. -/
def IsWritten (r : ArtifactRecord) (text : String) : Prop :=
  ∃ members, Json.read? text = some (.object members) ∧
    values "content" members = [.string r.content] ∧
    values "relying_party" members = r.relyingParty.toList.map .string ∧
    values "expires" members = [.string (Rfc3339.write r.expires)] ∧
    members.length = 2 + r.relyingParty.toList.length

theorem isWritten_encode (r : ArtifactRecord) : r.IsWritten r.encode := by
  refine ⟨texts r.fields, by rw [encode, toJson_eq, read?_write_texts], ?_⟩
  obtain ⟨content, relyingParty, expires⟩ := r
  cases relyingParty with
  | none => simp [fields, texts, values]
  | some name => simp [fields, texts, values]

/-- Every record reads as it was written: its texts and its instant, and a relying party only if it
has one. Different records are written differently. And whenever a map takes a message, this is how
its storage holds the message. -/
theorem written_losslessly (r : ArtifactRecord) :
    decode r.encode = .ok r ∧ r.IsWritten r.encode ∧
      (∀ r' : ArtifactRecord, r'.encode = r.encode ↔ r' = r) ∧
      ∀ (m : ArtifactMap) (s left : Store) (clocks : ClockReadings) (content : Fragment)
        (a : Artifact) (relyingParty : Option String),
        m.store (.memory s) clocks content a relyingParty = (.ok (), .memory left) →
          m.record clocks.map content relyingParty = r →
            left.records.get? ⟨m.settings.context, ArtifactMap.key a⟩ =
              some ⟨r.encode, r.expires⟩ := by
  refine ⟨decode_encode r, isWritten_encode r, fun r' => encode_inj, ?_⟩
  rintro m s left clocks content a relyingParty stored rfl
  have takes := ArtifactMap.not_refuses_of_ok (congrArg Prod.fst stored)
  rw [ArtifactMap.store_of_taken relyingParty takes] at stored
  obtain rfl := Storage.memory.inj (congrArg Prod.snd stored)
  rw [Table.get?_insert, if_pos rfl]
  rfl

/-- A relying party whose name goes on as the record would. -/
def misleading : ArtifactRecord where
  content := Use.sampleContent.xml
  relyingParty := some "sp\",\"expires\":\"9999-12-31T23:59:59Z"
  expires := .ofSecond 180

theorem misleading_stored :
    let artifact := (Use.sample 0 .relyingParty).artifact
    decode misleading.encode = .ok misleading ∧ ∃ left,
      ArtifactMap.store ⟨{}⟩ (.memory (.empty {})) ⟨.ofSecond 0, .ofSecond 0⟩ Use.sampleContent
        artifact misleading.relyingParty = (.ok (), .memory left) ∧
      left.records.get? ⟨"opensaml::ArtifactMap", ArtifactMap.key artifact⟩ =
        some ⟨misleading.encode, .ofSecond 180⟩ := by
  obtain ⟨reads, -, -, holds⟩ := written_losslessly misleading
  have record : ArtifactMap.record ⟨{}⟩ (.ofSecond 0) Use.sampleContent misleading.relyingParty =
      misleading := by decide
  exact ⟨reads, _, rfl, holds ⟨{}⟩ (.empty {}) _ ⟨.ofSecond 0, .ofSecond 0⟩ Use.sampleContent _
    misleading.relyingParty rfl record⟩

end Gatehouse.ArtifactRecord
