import Gatehouse.Bytes.Hex
import Gatehouse.Text.Decimal
import Gatehouse.Text.Split

/-! # Addresses of the internet protocol

Version 4 addresses in the forms that URLs allow, with parts in decimal, octal and hexadecimal and
with the last part filling what is left, and version 6 addresses with their compressed form.
-/

namespace Gatehouse.Url

open Gatehouse.Text

/-- The number that digits of a base denote, or zero where there are none. -/
def inBase? (base : Nat) (s : List Char) : Option Nat :=
  (s.mapM fun c => (Hex.digit? c).filter (· < base)).map (ofDigits base)

def part? (s : List Char) : Option Nat :=
  match s with
  | [] => none
  | '0' :: 'x' :: rest => inBase? 16 rest
  | '0' :: 'X' :: rest => inBase? 16 rest
  | '0' :: c :: rest => inBase? 8 (c :: rest)
  | s => inBase? 10 s

/-- The parts of a dotted text, an empty one at the end dropped. -/
def dottedParts (s : List Char) : List (List Char) :=
  let parts := pieces '.' s
  if parts.getLast? = some [] then parts.dropLast else parts

/-- Whether a host's name has to be an address because its last part is a number. -/
def endsInNumber (s : List Char) : Bool :=
  if s.isEmpty then false
  else match (dottedParts s).getLast? with
    | none => false
    | some part => (!part.isEmpty && part.all Char.isDigit) || (part? part).isSome

/-- The version 4 address that a name with a number at its end denotes. -/
def ipv4? (s : List Char) : Option Nat := do
  let numbers ← (dottedParts s).mapM part?
  let last ← numbers.getLast?
  let firsts := numbers.dropLast
  let bound := 1 <<< (8 * (4 - firsts.length))
  if firsts.length ≤ 3 ∧ firsts.all (· < 256) ∧ last < bound then
    return ofDigits 256 firsts * bound + last
  else none

/-- A number of at most three decimal digits without leading zeros, below 256. -/
def octet? (s : List Char) : Option Nat :=
  if s.length ≤ 3 ∧ (s.length = 1 ∨ s.head? ≠ some '0') then (numeral? s).filter (· < 256) else none

/-- The two pieces that a dotted version 4 address makes at the end of a version 6 one. -/
def mixedPieces? (s : List Char) : Option (List Nat) := do
  let [a, b, c, d] ← (pieces '.' s).mapM octet? | none
  return [a * 256 + b, c * 256 + d]

def piece? (s : List Char) : Option Nat :=
  if 1 ≤ s.length ∧ s.length ≤ 4 then inBase? 16 s else none

/-- Pieces with colons between them; the last one may be a dotted address. -/
def groups? (mayMix : Bool) (s : List Char) : Option (List Nat) :=
  if s.isEmpty then some []
  else
    let parts := pieces ':' s
    match parts.getLast? with
    | none => none
    | some last =>
      if mayMix && last.contains '.' then do
        return (← parts.dropLast.mapM piece?) ++ (← mixedPieces? last)
      else parts.mapM piece?

/-- The eight pieces of a version 6 address. -/
def ipv6? (s : List Char) : Option (List Nat) :=
  match splitAt? [':', ':'] s with
  | none => (groups? true s).filter (·.length = 8)
  | some (before, after) => do
    let front ← groups? false before
    let back ← groups? true after
    if front.length + back.length ≤ 7 then
      return front ++ List.replicate (8 - front.length - back.length) 0 ++ back
    else none

def ipv4Text (n : Nat) : List Char :=
  let part (i : Nat) := digits (n >>> (8 * i) % 256)
  part 3 ++ '.' :: part 2 ++ '.' :: part 1 ++ '.' :: part 0

/-- Where the first of the longest runs of zeros begins, among the runs of two and more, and its
length. -/
def longestRun (ns : List Nat) : Nat × Nat :=
  let runs := (List.range ns.length).map fun i => (i, ((ns.drop i).takeWhile (· = 0)).length)
  runs.foldl (fun best run => if best.2 < run.2 ∧ 2 ≤ run.2 then run else best) (0, 0)

def joined (parts : List (List Char)) : List Char :=
  [':'].intercalate parts

/-- The text of a version 6 address: the longest run of zeros becomes two colons. -/
def ipv6Text (ns : List Nat) : List Char :=
  let texts := ns.map (Nat.toDigits 16)
  let (start, length) := longestRun ns
  if length = 0 then joined texts
  else joined (texts.take start) ++ [':', ':'] ++ joined (texts.drop (start + length))

end Gatehouse.Url
