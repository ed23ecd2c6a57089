import Gatehouse.Bytes.Basic

/-! # UTF-16

Text in units of sixteen bits. A character beyond U+FFFF takes two units, a high surrogate and then
a low one; a surrogate that stands alone is no text.
-/

namespace Gatehouse.Utf16

def isHighSurrogate (unit : Nat) : Bool :=
  0xD800 ≤ unit && unit < 0xDC00

def isLowSurrogate (unit : Nat) : Bool :=
  0xDC00 ≤ unit && unit < 0xE000

/-- The character of a pair of surrogates. -/
def ofSurrogates (high low : Nat) : Char :=
  Char.ofNat (0x10000 + (high - 0xD800) * 1024 + (low - 0xDC00))

def ofUnits? : List Nat → Option (List Char)
  | [] => some []
  | [unit] => if isHighSurrogate unit || isLowSurrogate unit then none else some [Char.ofNat unit]
  | unit :: next :: rest =>
    if isHighSurrogate unit then
      if isLowSurrogate next then (ofUnits? rest).map (ofSurrogates unit next :: ·) else none
    else if isLowSurrogate unit then none
    else (ofUnits? (next :: rest)).map (Char.ofNat unit :: ·)

/-- The units of a byte string, high bytes first. A last byte without a partner is a unit. -/
def units : Bytes → List Nat
  | [] => []
  | [b] => [b.toNat]
  | high :: low :: rest => (high.toNat * 256 + low.toNat) :: units rest

def decode? (b : Bytes) : Option String :=
  (ofUnits? (units b)).map String.ofList

end Gatehouse.Utf16
