import Gatehouse.Asn1.Der
import Gatehouse.Time.Calendar

/-! # Times in DER

The two forms that a validity period is written in: UTC time, whose years have two digits and lie
between 1950 and 2049, and generalized time. Only whether a time is well formed matters here.
-/

namespace Gatehouse.Der

def pairs? : Nat → Bytes → Option (List Nat × Bytes)
  | 0, s => some ([], s)
  | n + 1, a :: b :: rest =>
    if 48 ≤ a ∧ a ≤ 57 ∧ 48 ≤ b ∧ b ≤ 57 then
      (pairs? n rest).map fun (ns, rest) =>
        (((a.toNat - 48) * 10 + (b.toNat - 48)) :: ns, rest)
    else none
  | _ + 1, _ => none

/-- The seconds, which may be left out before a lone final byte. -/
def seconds? (s : Bytes) : Option (Nat × Bytes) :=
  match s with
  | [_] => some (0, s)
  | s => (pairs? 1 s).bind fun (ns, rest) => ns.head?.map fun n => (n, rest)

def isMoment (year month day hour minute second : Nat) : Bool :=
  Date.isValid ⟨year, month, day⟩ && hour ≤ 23 && minute ≤ 59 && second ≤ 59

/-- Whether bytes are a time zone: the letter Z, or a sign, up to 25 hours, and minutes. -/
def isZone : Bytes → Bool
  | [z] => z = 90
  | sign :: rest =>
    (sign = 43 || sign = 45) &&
      match pairs? 2 rest with
      | some ([hours, minutes], []) => hours ≤ 25 && minutes ≤ 59
      | _ => false
  | [] => false

def isUtcTime (s : Bytes) : Bool :=
  match pairs? 5 s with
  | some ([year, month, day, hour, minute], rest) =>
    match seconds? rest with
    | some (second, zone) =>
      isMoment (if year < 50 then 2000 + year else 1900 + year) month day hour minute second &&
        isZone zone
    | none => false
  | _ => false

/-- What follows an optional fraction of a second of at most three digits. -/
def afterFraction : Bytes → Bytes
  | [] => []
  | mark :: rest =>
    if mark = 46 then
      rest.drop ((rest.take 3).takeWhile fun b => 48 ≤ b && b ≤ 57).length
    else mark :: rest

/-- Whether bytes are a generalized time, which has to end in the letter Z. -/
def isGeneralizedTime (s : Bytes) : Bool :=
  match pairs? 6 s with
  | some ([century, year, month, day, hour, minute], rest) =>
    match seconds? rest with
    | some (second, rest) =>
      isMoment (century * 100 + year) month day hour minute second && afterFraction rest = [90]
    | none => false
  | _ => false

def readTime : Reader Unit := fun s => do
  let (e, s) ← read s
  if (e.tag = 23 && isUtcTime e.content) || (e.tag = 24 && isGeneralizedTime e.content) then
    return ((), s)
  else none

end Gatehouse.Der
