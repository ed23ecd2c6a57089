import Gatehouse.Bytes.Basic

/-! # Base64

The standard alphabet with canonical padding. Reading accepts exactly what writing produces: the
padding is required, the bits that it stands for are zero, and no other character may appear.
-/

namespace Gatehouse.Base64

/-- The character for a number below 64. -/
def char (n : Nat) : Char :=
  if n < 26 then Char.ofNat (65 + n)
  else if n < 52 then Char.ofNat (71 + n)
  else if n < 62 then Char.ofNat (n - 4)
  else if n = 62 then '+' else '/'

def value? (c : Char) : Option Nat :=
  if 'A' ≤ c ∧ c ≤ 'Z' then some (c.toNat - 65)
  else if 'a' ≤ c ∧ c ≤ 'z' then some (c.toNat - 71)
  else if '0' ≤ c ∧ c ≤ '9' then some (c.toNat + 4)
  else if c = '+' then some 62
  else if c = '/' then some 63
  else none

def encodeChars : Bytes → List Char
  | [] => []
  | [a] => [char (a.toNat / 4), char (a.toNat % 4 * 16), '=', '=']
  | [a, b] =>
    [char (a.toNat / 4), char (a.toNat % 4 * 16 + b.toNat / 16), char (b.toNat % 16 * 4), '=']
  | a :: b :: c :: rest =>
    char (a.toNat / 4) :: char (a.toNat % 4 * 16 + b.toNat / 16) ::
      char (b.toNat % 16 * 4 + c.toNat / 64) :: char (c.toNat % 64) :: encodeChars rest

/-- One byte from two characters and two signs of padding. -/
def decodeOne (w x : Char) : Option Bytes := do
  let w ← value? w
  let x ← value? x
  if x % 16 = 0 then return [UInt8.ofNat (w * 4 + x / 16)] else none

/-- Two bytes from three characters and one sign of padding. -/
def decodeTwo (w x y : Char) : Option Bytes := do
  let w ← value? w
  let x ← value? x
  let y ← value? y
  if y % 4 = 0 then
    return [UInt8.ofNat (w * 4 + x / 16), UInt8.ofNat (x % 16 * 16 + y / 4)]
  else none

/-- Three bytes from four characters. -/
def decodeThree (w x y z : Char) : Option Bytes := do
  let w ← value? w
  let x ← value? x
  let y ← value? y
  let z ← value? z
  return [UInt8.ofNat (w * 4 + x / 16), UInt8.ofNat (x % 16 * 16 + y / 4),
    UInt8.ofNat (y % 4 * 64 + z)]

def decodeChars : List Char → Option Bytes
  | [] => some []
  | [w, x, '=', '='] => decodeOne w x
  | [w, x, y, '='] => decodeTwo w x y
  | w :: x :: y :: z :: rest => do
    let group ← decodeThree w x y z
    let bytes ← decodeChars rest
    return group ++ bytes
  | _ => none

def encode (b : Bytes) : String :=
  String.ofList (encodeChars b)

def decode (s : String) : Option Bytes :=
  decodeChars s.toList

end Gatehouse.Base64
