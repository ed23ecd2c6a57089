import Gatehouse.Bytes.Hex

/-! # Object identifiers

The content of an object identifier: the first two numbers in one byte, each further number in base
128 with the high bit set on all its bytes but the last. The text form is dotted decimal, unless a
number has more bytes than fit a 64-bit word; then it is the bytes in hexadecimal.
-/

namespace Gatehouse.ObjectIdentifier

/-- The numbers after the first byte. Bytes at the end that lack the last one of their number count
as a number too, modulo 2^64. -/
def numbers (n : Nat) : Bytes → List Nat
  | [] => []
  | [b] => [(n * 128 + b.toNat % 128) % UInt64.size]
  | b :: rest =>
    let n := (n * 128 + b.toNat % 128) % UInt64.size
    if b.toNat < 128 then n :: numbers 0 rest else numbers n rest

/-- Whether a complete number takes ten bytes or more, `count` of which have been passed. -/
def isWide (count : Nat) : Bytes → Bool
  | [] => false
  | b :: rest =>
    if b.toNat < 128 then 10 ≤ count + 1 || isWide 0 rest else isWide (count + 1) rest

def components : Bytes → List Nat
  | [] => []
  | [0] => [0]
  | first :: rest => first.toNat / 40 :: first.toNat % 40 :: numbers 0 rest

/-- The bytes of a number's higher digits in base 128, all with the high bit set, before `after`. -/
def higherBytes (n : Nat) (after : Bytes) : Bytes :=
  if n = 0 then after else higherBytes (n / 128) (UInt8.ofNat (128 + n % 128) :: after)
termination_by n
decreasing_by omega

/-- The bytes of a number after the first two. -/
def numberBytes (n : Nat) : Bytes :=
  higherBytes (n / 128) [UInt8.ofNat (n % 128)]

/-- The identifier with the given numbers, of which there have to be two. -/
def ofComponents : List Nat → Bytes
  | a :: b :: rest => UInt8.ofNat (a * 40 + b) :: rest.flatMap numberBytes
  | _ => []

def text (oid : Bytes) : String :=
  if isWide 0 oid.tail then " ".intercalate (oid.map fun b => Hex.encode [b])
  else ".".intercalate ((components oid).map toString)

end Gatehouse.ObjectIdentifier
