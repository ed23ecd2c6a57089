import Gatehouse.Artifact
import Gatehouse.Proofs.Bytes.Base64

/-! # The wire form of an artifact

What is written for an artifact reads as that artifact, and what is read is what is written for it:
an artifact has one wire form.
-/

namespace Gatehouse

namespace Artifact

/-- Whether an artifact has all that its type asks for: the location of type 0002 may not be empty.
-/
def Complete : Artifact → Prop
  | .type0002 _ location => location ≠ ""
  | _ => True

variable {a : Artifact} {bytes rest : Bytes} {text : String}

theorem indexBytes_ofNat (hi lo : UInt8) :
    indexBytes (UInt16.ofNat (hi.toNat * 256 + lo.toNat)) = [hi, lo] := by
  have high := hi.toNat_lt
  have low := lo.toNat_lt
  have number : (UInt16.ofNat (hi.toNat * 256 + lo.toNat)).toNat = hi.toNat * 256 + lo.toNat :=
    UInt16.toNat_ofNat_of_lt (show _ < 65536 by omega)
  rw [indexBytes, number, show (hi.toNat * 256 + lo.toNat) / 256 = hi.toNat by omega,
    show (hi.toNat * 256 + lo.toNat) % 256 = lo.toNat by omega, UInt8.ofNat_toNat,
    UInt8.ofNat_toNat]

theorem ofNat_indexBytes (index : UInt16) :
    ∃ hi lo, indexBytes index = [hi, lo] ∧ UInt16.ofNat (hi.toNat * 256 + lo.toNat) = index := by
  have bound := index.toNat_lt
  refine ⟨_, _, rfl, ?_⟩
  rw [UInt8.toNat_ofNat_of_lt' (show index.toNat / 256 < 256 by omega),
    UInt8.toNat_ofNat_of_lt' (show index.toNat % 256 < 256 by omega),
    show index.toNat / 256 * 256 + index.toNat % 256 = index.toNat by omega, UInt16.ofNat_toNat]

theorem read0001_eq_ok_iff : read0001 rest = .ok a ↔
    ∃ source handle, a = .type0001 source handle ∧ rest = source.bytes ++ handle.bytes := by
  unfold read0001
  constructor
  · intro read
    split at read
    · next source handle first second =>
        obtain rfl := Except.ok.inj read
        exact ⟨source, handle, rfl, Octets.ofBytes?_two_iff.1 ⟨first, second⟩⟩
    · cases read
  · rintro ⟨source, handle, rfl, whole⟩
    obtain ⟨first, second⟩ := Octets.ofBytes?_two_iff.2 whole
    rw [first, second]

theorem read0002_eq_ok_iff : read0002 rest = .ok a ↔ ∃ handle location,
    a = .type0002 handle location ∧ location ≠ "" ∧
      rest = handle.bytes ++ Bytes.ofString location := by
  unfold read0002
  constructor
  · intro read
    split at read
    · cases read
    · next more =>
        split at read
        · next handle location first second =>
            obtain rfl := Except.ok.inj read
            have text := Bytes.toString?_eq_some_iff.1 second
            refine ⟨handle, location, rfl, ?_, Octets.ofBytes?_take_iff.1 ⟨first, text⟩⟩
            rintro rfl
            exact more (by rw [text]; rfl)
        · cases read
  · rintro ⟨handle, location, rfl, ne, whole⟩
    obtain ⟨first, text⟩ := Octets.ofBytes?_take_iff.2 whole
    have more : ¬ (rest.drop 20).isEmpty := by
      rw [text, List.isEmpty_iff, Bytes.ofString_eq_nil_iff]
      exact ne
    rw [if_neg more, first, Bytes.toString?_eq_some_iff.2 text]

theorem read0004_eq_ok_iff : read0004 rest = .ok a ↔ ∃ index source handle,
    a = .type0004 index source handle ∧
      rest = indexBytes index ++ source.bytes ++ handle.bytes := by
  unfold read0004
  constructor
  · intro read
    split at read
    · next hi lo more =>
        split at read
        · next source handle first second =>
            obtain rfl := Except.ok.inj read
            refine ⟨_, source, handle, rfl, ?_⟩
            rw [indexBytes_ofNat, Octets.ofBytes?_two_iff.1 ⟨first, second⟩]
            rfl
        · cases read
    · cases read
  · rintro ⟨index, source, handle, rfl, rfl⟩
    obtain ⟨hi, lo, two, number⟩ := ofNat_indexBytes index
    obtain ⟨first, second⟩ := Octets.ofBytes?_two_iff.2 (rfl : source.bytes ++ handle.bytes = _)
    rw [two]
    simp only [List.cons_append, List.nil_append, first, second, number]

theorem ofBytes_eq_ok_iff : ofBytes bytes = .ok a ↔ a.Complete ∧ bytes = a.toBytes := by
  constructor
  · intro read
    unfold ofBytes at read
    split at read
    · split_ifs at read with one two four
      · obtain ⟨source, handle, rfl, rfl⟩ := read0001_eq_ok_iff.1 read
        obtain ⟨rfl, rfl⟩ := one
        exact ⟨trivial, rfl⟩
      · obtain ⟨handle, location, rfl, ne, rfl⟩ := read0002_eq_ok_iff.1 read
        obtain ⟨rfl, rfl⟩ := two
        exact ⟨ne, rfl⟩
      · obtain ⟨index, source, handle, rfl, rfl⟩ := read0004_eq_ok_iff.1 read
        obtain ⟨rfl, rfl⟩ := four
        exact ⟨trivial, rfl⟩
      · cases read
    · cases read
  · rintro ⟨complete, rfl⟩
    cases a with
    | type0001 source handle => exact read0001_eq_ok_iff.2 ⟨source, handle, rfl, rfl⟩
    | type0002 handle location =>
        exact read0002_eq_ok_iff.2 ⟨handle, location, rfl, complete, rfl⟩
    | type0004 index source handle =>
        exact read0004_eq_ok_iff.2 ⟨index, source, handle, rfl, rfl⟩

theorem parse_eq_ok_iff : parse text = .ok a ↔ a.Complete ∧ Text.trimmed text = a.encode := by
  unfold parse
  constructor
  · intro read
    split at read
    · next bytes decoded =>
        obtain ⟨complete, rfl⟩ := ofBytes_eq_ok_iff.1 read
        exact ⟨complete, Base64.decode_eq_some_iff.1 decoded⟩
    · cases read
  · rintro ⟨complete, written⟩
    rw [Base64.decode_eq_some_iff.2 written]
    exact ofBytes_eq_ok_iff.2 ⟨complete, rfl⟩

/-- Reading takes the bytes that are written for a complete artifact and no others, and the text
that is written for it, with white space around it, and no other. -/
theorem read_iff_written (a : Artifact) :
    (ofBytes a.toBytes = .ok a ↔ a.Complete) ∧ (parse a.encode = .ok a ↔ a.Complete) ∧
      (∀ bytes, ofBytes bytes = .ok a ↔ a.Complete ∧ bytes = a.toBytes) ∧
      ∀ text, parse text = .ok a ↔ a.Complete ∧ Text.trimmed text = a.encode := by
  refine ⟨?_, ?_, fun bytes => ofBytes_eq_ok_iff, fun text => parse_eq_ok_iff⟩
  · rw [ofBytes_eq_ok_iff, and_iff_left rfl]
  · have trimmed : Text.trimmed a.encode = a.encode := Base64.trimmed_encode a.toBytes
    rw [parse_eq_ok_iff, and_iff_left trimmed]

end Artifact

end Gatehouse
