import Gatehouse.Asn1.Der

/-! # Elements of indefinite length

A constructed element may give no length. Its content is then a run of elements that ends with an
empty one of tag 0, and those may be of indefinite length in turn, up to a depth.
-/

namespace Gatehouse.Der

/-- How deep elements of indefinite length may be nested. -/
def maxDepth : Nat := 49

/-- A length, which is `none` if it is indefinite. -/
def readAnyLength (constructed : Bool) : Reader (Option Nat) := fun s =>
  match s with
  | [] => none
  | b :: rest =>
    if b = 128 then if constructed then some (none, rest) else none
    else (readLength s).map fun (n, rest) => (some n, rest)

/-- What follows a run of elements and the empty element that ends it. At most `fuel` elements are
passed over, and `depth` is how many runs, this one counted, may be open at once. -/
def afterRun : Nat → Nat → Bytes → Option Bytes
  | 0, _, _ => none
  | _, 0, _ => none
  | fuel + 1, depth + 1, s => do
    let ((_, constructed, tag), s) ← readTag s
    match ← readAnyLength constructed s with
    | (some length, s) =>
      if length = 0 ∧ tag = 0 then return s
      else if length ≤ s.length then afterRun fuel (depth + 1) (s.drop length)
      else none
    | (none, s) => afterRun fuel (depth + 1) (← afterRun fuel depth s)

/-- An element with a given tag number, of any class and of definite or indefinite length. -/
def readAnyTagged (wanted : Nat) : Reader Unit := fun s => do
  let ((_, constructed, tag), s) ← readTag s
  if tag = wanted then
    match ← readAnyLength constructed s with
    | (some length, s) => if length ≤ s.length then return ((), s.drop length) else none
    | (none, s) => return ((), ← afterRun s.length maxDepth s)
  else none

end Gatehouse.Der
