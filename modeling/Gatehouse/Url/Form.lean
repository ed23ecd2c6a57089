import Gatehouse.Bytes.Utf8
import Gatehouse.Url.Percent

/-! # Form-encoded text

Names and values as queries and form bodies carry them: pieces between ampersands, each split at its
first equals sign, with plus signs for spaces and percent-encoded bytes. Empty pieces do not count.
-/

namespace Gatehouse.Form

/-- The pieces between the occurrences of a byte. -/
def pieces (mark : UInt8) : Bytes → List Bytes
  | [] => [[]]
  | b :: rest =>
    if b = mark then [] :: pieces mark rest
    else match pieces mark rest with
      | [] => [[b]]
      | piece :: more => (b :: piece) :: more

/-- The text that a name or a value stands for. -/
def decode (s : Bytes) : String :=
  Utf8.decodeLossy (Percent.decode (s.map fun b => if b = 43 then 32 else b))

def pair (piece : Bytes) : String × String :=
  (decode (piece.takeWhile (· ≠ 61)), decode ((piece.dropWhile (· ≠ 61)).drop 1))

/-- The names and values of a form-encoded text. -/
def pairs (s : String) : List (String × String) :=
  ((pieces 38 (Bytes.ofString s)).filter (!·.isEmpty)).map pair

end Gatehouse.Form
