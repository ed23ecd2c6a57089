import Gatehouse.Bytes.Basic

/-! # Hexadecimal text

Two digits a byte, written in lower case and read in either case.
-/

namespace Gatehouse.Hex

def digit? (c : Char) : Option Nat :=
  if '0' ≤ c ∧ c ≤ '9' then some (c.toNat - 48)
  else if 'a' ≤ c ∧ c ≤ 'f' then some (c.toNat - 87)
  else if 'A' ≤ c ∧ c ≤ 'F' then some (c.toNat - 55)
  else none

def encodeByte (b : UInt8) : List Char :=
  [Nat.digitChar (b.toNat / 16), Nat.digitChar (b.toNat % 16)]

def encode (bs : Bytes) : String :=
  String.ofList (bs.flatMap encodeByte)

def decodeChars : List Char → Option Bytes
  | [] => some []
  | [_] => none
  | hi :: lo :: rest => do
    let h ← digit? hi
    let l ← digit? lo
    let bs ← decodeChars rest
    return UInt8.ofNat (h * 16 + l) :: bs

def decode (s : String) : Option Bytes :=
  decodeChars s.toList

end Gatehouse.Hex
