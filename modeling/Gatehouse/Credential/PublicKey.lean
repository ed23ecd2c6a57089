import Gatehouse.Asn1.Leading
import Gatehouse.Credential.X509

/-! # The public key in its certificate

A certificate holds its public key as an element of its body: an algorithm and a bit string under
the header of a sequence. What is read as the public key are the bytes of this element as they stand
in the encoding, up to the end of the bit string.
-/

namespace Gatehouse.X509

open Der

/-- Whether bytes are a public key with its algorithm, given what is left of its sequence after the
key. -/
def IsKeyInfo (info left : Bytes) : Prop :=
  ∃ header algorithm key bits, info = header ++ algorithm ++ key ∧
    Takes readSequence (header ++ (algorithm ++ key ++ left)) (algorithm ++ key ++ left) ∧
    Takes readAlgorithm algorithm () ∧ Takes readBitString key bits

/-- Whether a byte string begins with a certificate of a subject in which some bytes stand for the
public key. -/
def Holds (s : Bytes) (subject : DistinguishedName) (info : Bytes) : Prop :=
  ∃ outer inner before left after others rest,
    let fields := before ++ (info ++ (left ++ after))
    let content := inner ++ fields ++ others
    s = outer ++ content ++ rest ∧ Takes readSequence (outer ++ content) content ∧
      Takes readSequence (inner ++ fields) fields ∧
      readUpToKey fields = some (subject, info ++ (left ++ after)) ∧ IsKeyInfo info left

variable {s rest info : Bytes} {x : X509} {subject : DistinguishedName}

theorem leading_readAlgorithm : Leading readAlgorithm :=
  (leading_readTagged 16).bind fun content =>
    leading_given (readOid content) fun oid =>
      leading_given (optional (fun _ => true) readParameters oid.2) fun _ => leading_some ()

theorem leading_readValidity : Leading readValidity :=
  (leading_readTagged 16).bind fun content =>
    leading_given (readTime content) fun start =>
      leading_given (readTime start.2) fun _ => leading_some ()

theorem leading_readName : Leading DistinguishedName.read :=
  (leading_readTagged 16).bind fun content =>
    leading_some (many DistinguishedName.readSet content).1

theorem advancing_readVersion : Advancing readVersion := by
  intro s a rest found
  obtain ⟨⟨e, after⟩, element, found⟩ := Option.bind_eq_some_iff.1 found
  by_cases given : e.tagClass = .context ∧ e.tag = 0
  · simp only [if_pos given] at found
    obtain ⟨⟨version, _⟩, -, found⟩ := Option.bind_eq_some_iff.1 found
    split at found
    · obtain ⟨-, rfl⟩ := Prod.mk.inj (Option.some.inj found)
      exact leading_read.advancing _ _ _ element
    · cases found
  · simp only [if_neg given] at found
    obtain ⟨-, rfl⟩ := Prod.mk.inj (Option.some.inj found)
    exact List.suffix_rfl

theorem advancing_readUpToKey : Advancing readUpToKey :=
  advancing_readVersion.bind fun _ => (advancing_readAnyTagged 2).bind fun _ =>
    leading_readAlgorithm.advancing.bind fun _ => leading_readName.advancing.bind fun _ =>
      leading_readValidity.advancing.bind fun _ => leading_readName.advancing

/-- The bytes that are read as the public key are those of its element. -/
theorem readPublicKeyInfo_eq_some_iff : readPublicKeyInfo s = some (info, rest) ↔
    ∃ left, s = info ++ (left ++ rest) ∧ IsKeyInfo info left := by
  -- What is cut off the end is as long as the bytes that no reader has taken.
  have width (taken left after : Bytes) : (taken ++ (left ++ after)).length - after.length -
      left.length = taken.length := by
    simp only [List.length_append]
    omega
  constructor
  · intro found
    obtain ⟨⟨content, after⟩, whole, found⟩ := Option.bind_eq_some_iff.1 found
    obtain ⟨⟨_, second⟩, first, found⟩ := Option.bind_eq_some_iff.1 found
    obtain ⟨⟨bits, left⟩, last, found⟩ := Option.bind_eq_some_iff.1 found
    obtain ⟨rfl, rfl⟩ := Prod.mk.inj (Option.some.inj found)
    obtain ⟨header, rfl, again⟩ := readSequence_eq whole
    obtain ⟨algorithm, rfl, takes⟩ := leading_readAlgorithm _ _ _ first
    obtain ⟨key, rfl, takes'⟩ := leading_readBitString _ _ _ last
    have regrouped : header ++ (algorithm ++ (key ++ left)) ++ after =
        header ++ algorithm ++ key ++ (left ++ after) := by
      simp only [List.append_assoc]
    rw [regrouped, width, List.take_left]
    refine ⟨left, rfl, header, algorithm, key, bits, rfl, ?_, takes, takes'⟩
    simpa only [List.append_assoc] using again
  · rintro ⟨left, rfl, header, algorithm, key, bits, rfl, again, takes, takes'⟩
    have whole : readSequence (header ++ algorithm ++ key ++ (left ++ rest)) =
        some (algorithm ++ (key ++ left), rest) := by
      simpa only [List.append_assoc] using again rest
    refine Option.bind_eq_some_iff.2 ⟨_, whole, Option.bind_eq_some_iff.2 ⟨_, takes _, ?_⟩⟩
    refine Option.bind_eq_some_iff.2 ⟨_, takes' left, ?_⟩
    simp only [width, List.take_left]
    rfl

/-- The subject and the public key of what a byte string begins with, read no further than that. -/
def subjectAndKey? (s : Bytes) : Option (DistinguishedName × Bytes) := do
  let (content, _) ← readSequence s
  let (fields, _) ← readSequence content
  let (subject, fields) ← readUpToKey fields
  let (key, _) ← readPublicKeyInfo fields
  return (subject, key)

theorem subjectAndKey?_eq_some_iff :
    subjectAndKey? s = some (subject, info) ↔ Holds s subject info := by
  constructor
  · intro found
    obtain ⟨⟨content, rest⟩, whole, found⟩ := Option.bind_eq_some_iff.1 found
    obtain ⟨⟨fields, others⟩, signed, found⟩ := Option.bind_eq_some_iff.1 found
    obtain ⟨⟨_, onward⟩, start, found⟩ := Option.bind_eq_some_iff.1 found
    obtain ⟨⟨_, after⟩, key, found⟩ := Option.bind_eq_some_iff.1 found
    obtain ⟨rfl, rfl⟩ := Prod.mk.inj (Option.some.inj found)
    obtain ⟨outer, rfl, takes⟩ := readSequence_eq whole
    obtain ⟨inner, rfl, takes'⟩ := readSequence_eq signed
    obtain ⟨before, rfl⟩ := advancing_readUpToKey _ _ _ start
    obtain ⟨left, rfl, isKey⟩ := readPublicKeyInfo_eq_some_iff.1 key
    exact ⟨outer, inner, before, left, after, others, rest, rfl, takes, takes', start, isKey⟩
  · rintro ⟨outer, inner, before, left, after, others, rest, rfl, takes, takes', start, isKey⟩
    refine Option.bind_eq_some_iff.2 ⟨_, takes rest, ?_⟩
    refine Option.bind_eq_some_iff.2 ⟨_, takes' others, ?_⟩
    refine Option.bind_eq_some_iff.2 ⟨_, start, ?_⟩
    exact Option.bind_eq_some_iff.2 ⟨_, readPublicKeyInfo_eq_some_iff.2 ⟨left, rfl, isKey⟩, rfl⟩

theorem subjectAndKey?_of_ofBytes? (read : ofBytes? s = some x) :
    subjectAndKey? s = some (x.subject, x.publicKeyInfo) := by
  obtain ⟨⟨x, _⟩, found, rfl⟩ := Option.map_eq_some_iff.1 read
  obtain ⟨_, whole, found⟩ := Option.bind_eq_some_iff.1 found
  obtain ⟨⟨x, _⟩, body, found⟩ := Option.bind_eq_some_iff.1 found
  obtain ⟨_, -, found⟩ := Option.bind_eq_some_iff.1 found
  obtain ⟨_, -, found⟩ := Option.bind_eq_some_iff.1 found
  obtain ⟨rfl, rfl⟩ := Prod.mk.inj (Option.some.inj found)
  obtain ⟨_, signed, found⟩ := Option.bind_eq_some_iff.1 body
  obtain ⟨_, start, found⟩ := Option.bind_eq_some_iff.1 found
  obtain ⟨_, key, found⟩ := Option.bind_eq_some_iff.1 found
  obtain ⟨_, -, found⟩ := Option.bind_eq_some_iff.1 found
  obtain ⟨_, -, found⟩ := Option.bind_eq_some_iff.1 found
  dsimp only at found
  split at found
  · obtain ⟨rfl, rfl⟩ := Prod.mk.inj (Option.some.inj found)
    refine Option.bind_eq_some_iff.2 ⟨_, whole, Option.bind_eq_some_iff.2 ⟨_, signed, ?_⟩⟩
    exact Option.bind_eq_some_iff.2 ⟨_, start, Option.bind_eq_some_iff.2 ⟨_, key, rfl⟩⟩
  · cases found

/-- A byte string that begins with a certificate holds one public key, the one that is read. -/
theorem holds_iff (read : ofBytes? s = some x) :
    Holds s subject info ↔ subject = x.subject ∧ info = x.publicKeyInfo := by
  rw [← subjectAndKey?_eq_some_iff, subjectAndKey?_of_ofBytes? read, Option.some.injEq,
    Prod.mk.injEq, eq_comm, eq_comm (b := info)]

end Gatehouse.X509
