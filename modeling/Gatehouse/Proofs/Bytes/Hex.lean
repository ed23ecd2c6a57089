import Gatehouse.Bytes.Hex

/-! # Hexadecimal text read back

The text of a byte string reads as that byte string, so different byte strings have different texts.
-/

namespace Gatehouse.Hex

theorem digit?_digitChar {d : Nat} (h : d < 16) : digit? (Nat.digitChar d) = some d := by
  have all : ∀ d : Fin 16, digit? (Nat.digitChar d.val) = some d.val := by decide
  exact all ⟨d, h⟩

theorem decodeChars_encodeByte (b : UInt8) (rest : List Char) :
    decodeChars (encodeByte b ++ rest) = (decodeChars rest).map (b :: ·) := by
  have bound : b.toNat < 256 := b.toNat_lt
  have whole : b.toNat / 16 * 16 + b.toNat % 16 = b.toNat := by omega
  simp only [encodeByte, List.cons_append, List.nil_append, decodeChars,
    digit?_digitChar (show b.toNat / 16 < 16 by omega),
    digit?_digitChar (show b.toNat % 16 < 16 by omega), bind, Option.bind_some, whole,
    UInt8.ofNat_toNat]
  cases decodeChars rest <;> rfl

theorem decodeChars_encode (bs : Bytes) : decodeChars (bs.flatMap encodeByte) = some bs := by
  induction bs with
  | nil => rfl
  | cons b bs ih =>
      rw [List.flatMap_cons, decodeChars_encodeByte, ih]
      rfl

theorem decode_encode (bs : Bytes) : decode (encode bs) = some bs := by
  rw [decode, encode, String.toList_ofList, decodeChars_encode]

theorem encode_inj {a b : Bytes} : encode a = encode b ↔ a = b := by
  constructor
  · intro same
    have read := congrArg decode same
    rw [decode_encode, decode_encode] at read
    exact Option.some.inj read
  · rintro rfl
    rfl

theorem utf8Size_digitChar {d : Nat} (h : d < 16) : (Nat.digitChar d).utf8Size = 1 := by
  have all : ∀ d : Fin 16, (Nat.digitChar d.val).utf8Size = 1 := by decide
  exact all ⟨d, h⟩

/-- The text takes two bytes for each byte. -/
theorem utf8ByteSize_encode (bs : Bytes) : (encode bs).utf8ByteSize = 2 * bs.length := by
  rw [← String.size_toByteArray, encode, String.toByteArray_ofList, List.utf8Encode,
    List.size_toByteArray]
  induction bs with
  | nil => rfl
  | cons b bs ih =>
      have bound : b.toNat < 256 := b.toNat_lt
      simp only [List.flatMap_cons, List.flatMap_append, List.length_append, ih, encodeByte,
        List.flatMap_nil, List.append_nil, String.length_utf8EncodeChar, List.length_cons,
        utf8Size_digitChar (show b.toNat / 16 < 16 by omega),
        utf8Size_digitChar (show b.toNat % 16 < 16 by omega)]
      omega

end Gatehouse.Hex
