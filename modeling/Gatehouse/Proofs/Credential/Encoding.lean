import Gatehouse.Credential.Certificate
import Gatehouse.Asn1.Leading
import Mathlib.Logic.ExistsUnique

/-! # What a certificate value holds

The encoding of a certificate ends where its length says. A certificate is made from any byte string
that begins with one, and keeps all of it: what comes behind the encoding is never read, yet counts
when two values are compared.
-/

namespace Gatehouse

namespace X509

/-- Whether a byte string is the encoding of one certificate and nothing else. -/
def Encodes (e : Bytes) (x : X509) : Prop :=
  read e = some (x, [])

variable {e e' s rest rest' : Bytes} {x x' : X509}

theorem leading_read : Der.Leading read :=
  (Der.leading_readTagged 16).bind fun content =>
    Der.leading_given (readBody content) fun body =>
      Der.leading_given (readAlgorithm body.2) fun algorithm =>
        Der.leading_given (Der.readBitString algorithm.2) fun _ => Der.leading_some body.1

theorem Encodes.read_append (encodes : Encodes e x) (tail : Bytes) :
    read (e ++ tail) = some (x, tail) := by
  obtain ⟨taken, same, again⟩ := leading_read _ _ _ encodes
  rw [same, List.append_nil]
  exact again tail

theorem read_eq_some_iff : read s = some (x, rest) ↔ ∃ e, s = e ++ rest ∧ Encodes e x := by
  constructor
  · intro found
    obtain ⟨taken, same, again⟩ := leading_read _ _ _ found
    have alone : read (taken ++ []) = some (x, []) := again []
    rw [List.append_nil] at alone
    exact ⟨taken, same, alone⟩
  · rintro ⟨e, rfl, encodes⟩
    exact encodes.read_append rest

/-- No byte string begins with the encodings of two certificates. -/
theorem Encodes.unique (encodes : Encodes e x) (encodes' : Encodes e' x')
    (same : e ++ rest = e' ++ rest') : e = e' ∧ x = x' := by
  have found := encodes.read_append rest
  rw [same, encodes'.read_append rest'] at found
  obtain ⟨rfl, rfl⟩ := Prod.mk.inj (Option.some.inj found)
  exact ⟨List.append_cancel_right same, rfl⟩

theorem ofBytes?_eq_some_iff : ofBytes? s = some x ↔ ∃ e rest, s = e ++ rest ∧ Encodes e x := by
  rw [ofBytes?, Option.map_eq_some_iff]
  constructor
  · rintro ⟨⟨_, rest⟩, found, rfl⟩
    obtain ⟨e, same, encodes⟩ := read_eq_some_iff.1 found
    exact ⟨e, rest, same, encodes⟩
  · rintro ⟨e, rest, same, encodes⟩
    exact ⟨(x, rest), read_eq_some_iff.2 ⟨e, same, encodes⟩, rfl⟩

end X509

namespace Certificate

open X509 (Encodes)

variable {b e rest : Bytes} {c : Certificate} {x : X509}

theorem ofDer_der (c : Certificate) : ofDer c.der = .ok c := by
  unfold ofDer
  split
  · exact congrArg Except.ok (ext rfl)
  · next unread => cases c.body_eq.symm.trans unread

theorem ofDer_eq_ok_iff : ofDer b = .ok c ↔ c.der = b := by
  constructor
  · intro made
    unfold ofDer at made
    split at made
    · cases made
      rfl
    · cases made
  · rintro rfl
    exact ofDer_der c

theorem ofDer_of_encodes (encodes : Encodes e x) (rest : Bytes) :
    ∃ c, ofDer (e ++ rest) = .ok c ∧ c.body = x ∧ c.der = e ++ rest :=
  ⟨⟨e ++ rest, x, X509.ofBytes?_eq_some_iff.2 ⟨e, rest, rfl, encodes⟩⟩, ofDer_eq_ok_iff.2 rfl,
    rfl, rfl⟩

theorem encodes_of_ofDer (made : ofDer b = .ok c) : ∃ e rest, b = e ++ rest ∧ Encodes e c.body := by
  obtain rfl := ofDer_eq_ok_iff.1 made
  exact X509.ofBytes?_eq_some_iff.1 c.body_eq

/-- A byte string is one encoding and no more exactly if nothing shorter at its start would do. -/
theorem encodes_iff_shortest (made : ofDer b = .ok c) :
    Encodes b c.body ↔ ∀ start c', start <+: b → ofDer start = .ok c' → start = b := by
  constructor
  · rintro encodes start c' ⟨tail, whole⟩ made'
    obtain ⟨e, rest, rfl, encodes'⟩ := encodes_of_ofDer made'
    have same : b ++ [] = e ++ (rest ++ tail) := by simp [← whole]
    obtain rfl := (encodes.unique encodes' same).1
    rw [List.append_assoc, List.append_right_eq_self, List.append_eq_nil_iff] at whole
    rw [whole.1, List.append_nil]
  · intro shortest
    obtain ⟨e, rest, rfl, encodes⟩ := encodes_of_ofDer made
    obtain ⟨c', made', -⟩ := ofDer_of_encodes encodes []
    rw [List.append_nil] at made'
    rw [← shortest e c' ⟨rest, rfl⟩ made']
    exact encodes

/-- A certificate is made from a byte string exactly if that begins with an encoding, which is then
the only one that it begins with. The value holds nothing but the encoding exactly if no shorter
start of the byte string would do. Otherwise what follows is not read, but tells values apart. -/
theorem ofDer_reads_first_encoding (b : Bytes) :
    ((∃ c, ofDer b = .ok c) ↔ ∃ e rest x, b = e ++ rest ∧ Encodes e x) ∧
    (∀ c, ofDer b = .ok c → ∃! e, e <+: b ∧ ∃ x, Encodes e x) ∧
    (∀ c, ofDer b = .ok c →
      (Encodes b c.body ↔ ∀ start c', start <+: b → ofDer start = .ok c' → start = b)) ∧
    ∀ x, Encodes b x → ∀ rest rest', ∃ c c', ofDer (b ++ rest) = .ok c ∧
      ofDer (b ++ rest') = .ok c' ∧ c.body = x ∧ c'.body = x ∧ (c = c' ↔ rest = rest') := by
  refine ⟨⟨?_, ?_⟩, ?_, fun c => encodes_iff_shortest, ?_⟩
  · rintro ⟨c, made⟩
    obtain ⟨e, rest, same, encodes⟩ := encodes_of_ofDer made
    exact ⟨e, rest, c.body, same, encodes⟩
  · rintro ⟨e, rest, x, rfl, encodes⟩
    obtain ⟨c, made, -⟩ := ofDer_of_encodes encodes rest
    exact ⟨c, made⟩
  · intro c made
    obtain ⟨e, rest, rfl, encodes⟩ := encodes_of_ofDer made
    refine ⟨e, ⟨⟨rest, rfl⟩, c.body, encodes⟩, ?_⟩
    rintro e' ⟨⟨rest', same⟩, x', encodes'⟩
    exact (encodes'.unique encodes same).1
  · intro x encodes rest rest'
    obtain ⟨c, made, body, der⟩ := ofDer_of_encodes encodes rest
    obtain ⟨c', made', body', der'⟩ := ofDer_of_encodes encodes rest'
    refine ⟨c, c', made, made', body, body', ?_⟩
    constructor
    · rintro rfl
      exact List.append_cancel_left (der.symm.trans der')
    · rintro rfl
      exact ext (der.trans der'.symm)

/-- A certificate of one name, whose key and signature are empty. -/
def sampleEncoding : Bytes :=
  let element := fun (tag : UInt8) (content : Bytes) => tag :: UInt8.ofNat content.length :: content
  let algorithm := element 0x30 (element 6 [0x2a])
  let bits := element 3 [0]
  let commonName := element 0x30 (element 6 [0x55, 4, 3] ++ element 12 (Bytes.ofString "idp"))
  let name := element 0x30 (element 0x31 commonName)
  let midnight := element 23 (Bytes.ofString "240301000000Z")
  let body := element 2 [1] ++ algorithm ++ name ++ element 0x30 (midnight ++ midnight) ++ name ++
    element 0x30 (algorithm ++ bits)
  element 0x30 (element 0x30 body ++ algorithm ++ bits)

theorem sampleEncoding_encodes : ∃ x, Encodes sampleEncoding x := by
  have read : (X509.read sampleEncoding).map Prod.snd = some [] := by decide +kernel
  obtain ⟨⟨x, rest⟩, read, rfl⟩ := Option.map_eq_some_iff.1 read
  exact ⟨x, read⟩

/-- With bytes behind it the sample is still read, and the sample is the only encoding in there. -/
theorem sampleEncoding_followed :
    ∃ c, ofDer (sampleEncoding ++ [5, 0]) = .ok c ∧
      (∃! e, e <+: sampleEncoding ++ [5, 0] ∧ ∃ x, Encodes e x) ∧
      (Encodes (sampleEncoding ++ [5, 0]) c.body ↔ ∀ start c', start <+: sampleEncoding ++ [5, 0] →
        ofDer start = .ok c' → start = sampleEncoding ++ [5, 0]) ∧
      ∃ c', ofDer (sampleEncoding ++ [5]) = .ok c' ∧ c'.body = c.body ∧ c' ≠ c := by
  obtain ⟨x, encodes⟩ := sampleEncoding_encodes
  obtain ⟨-, -, -, followed⟩ := ofDer_reads_first_encoding sampleEncoding
  obtain ⟨c, c', made, made', body, body', same⟩ := followed x encodes [5, 0] [5]
  obtain ⟨-, unique, shortest, -⟩ := ofDer_reads_first_encoding (sampleEncoding ++ [5, 0])
  refine ⟨c, made, unique c made, shortest c made, c', made', body'.trans body.symm, ?_⟩
  exact fun equal => absurd (same.1 equal.symm) (by decide)

/-- A byte behind the encoding is taken in: what is held then encodes no certificate, and differs
from the certificate without the byte. -/
theorem trailing_byte_taken :
    ∃ c c', ofDer sampleEncoding = .ok c ∧ ofDer (sampleEncoding ++ [0]) = .ok c' ∧
      c'.body = c.body ∧ c' ≠ c ∧ ¬ ∃ x, Encodes (sampleEncoding ++ [0]) x := by
  obtain ⟨x, encodes⟩ := sampleEncoding_encodes
  obtain ⟨c, made, body, der⟩ := ofDer_of_encodes encodes []
  obtain ⟨c', made', body', der'⟩ := ofDer_of_encodes encodes [0]
  rw [List.append_nil] at made
  refine ⟨c, c', made, made', body'.trans body.symm, ?_, ?_⟩
  · rintro rfl
    exact absurd (List.append_cancel_left (der.symm.trans der')) (by decide)
  · rintro ⟨x', longer⟩
    have whole : sampleEncoding ++ [0] ++ [] = sampleEncoding ++ [0] := List.append_nil _
    exact absurd (List.append_right_eq_self.1 (longer.unique encodes whole).1) (by decide)

end Certificate

end Gatehouse
