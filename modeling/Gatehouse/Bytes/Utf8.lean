import Gatehouse.Bytes.Basic

/-! # Reading damaged UTF-8

A reader that never refuses: each longest run of bytes that begins a character and breaks off, and
each byte that begins none, is read as U+FFFD.
-/

namespace Gatehouse.Utf8

/-- What the bytes of a character still to come have to satisfy. -/
structure Pending where
  bits : Nat
  missing : Nat
  low : Nat
  high : Nat

/-- What a first byte of a longer character announces. -/
def Pending.ofFirst? (n : Nat) : Option Pending :=
  if 0xC2 ≤ n ∧ n ≤ 0xDF then some ⟨n - 0xC0, 1, 0x80, 0xBF⟩
  else if n = 0xE0 then some ⟨0, 2, 0xA0, 0xBF⟩
  else if n = 0xED then some ⟨0xD, 2, 0x80, 0x9F⟩
  else if 0xE1 ≤ n ∧ n ≤ 0xEF then some ⟨n - 0xE0, 2, 0x80, 0xBF⟩
  else if n = 0xF0 then some ⟨0, 3, 0x90, 0xBF⟩
  else if 0xF1 ≤ n ∧ n ≤ 0xF3 then some ⟨n - 0xF0, 3, 0x80, 0xBF⟩
  else if n = 0xF4 then some ⟨4, 3, 0x80, 0x8F⟩
  else none

def replacement : Char :=
  Char.ofNat 0xFFFD

mutual
/-- Reads from the start of a character. -/
def decodeFirst : Bytes → List Char
  | [] => []
  | b :: rest =>
    if b.toNat < 0x80 then Char.ofNat b.toNat :: decodeFirst rest
    else match Pending.ofFirst? b.toNat with
      | some p => decodeNext p rest
      | none => replacement :: decodeFirst rest

/-- Reads inside a character; a byte that does not continue it starts the next one. -/
def decodeNext (p : Pending) : Bytes → List Char
  | [] => [replacement]
  | b :: rest =>
    let n := b.toNat
    if p.low ≤ n ∧ n ≤ p.high then
      let bits := p.bits * 64 + (n - 0x80)
      if p.missing ≤ 1 then Char.ofNat bits :: decodeFirst rest
      else decodeNext ⟨bits, p.missing - 1, 0x80, 0xBF⟩ rest
    else if n < 0x80 then replacement :: Char.ofNat n :: decodeFirst rest
    else match Pending.ofFirst? n with
      | some q => replacement :: decodeNext q rest
      | none => replacement :: replacement :: decodeFirst rest
end

/-- The text of a byte string, with U+FFFD where it is not UTF-8. -/
def decodeLossy (b : Bytes) : String :=
  String.ofList (decodeFirst b)

end Gatehouse.Utf8
