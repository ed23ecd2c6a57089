import Gatehouse.Bytes.Basic

/-! # UTF-32

Text in which every character takes four bytes, the highest one first.
-/

namespace Gatehouse.Utf32

/-- The characters of a byte string, unless it ends within one or holds what is no code point. -/
def decodeChars? : Bytes → Option (List Char)
  | [] => some []
  | a :: b :: c :: d :: rest =>
    let n := ((a.toNat * 256 + b.toNat) * 256 + c.toNat) * 256 + d.toNat
    if n.isValidChar then (decodeChars? rest).map (Char.ofNat n :: ·) else none
  | _ => none

def decode? (b : Bytes) : Option String :=
  (decodeChars? b).map String.ofList

end Gatehouse.Utf32
