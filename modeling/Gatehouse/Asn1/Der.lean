import Gatehouse.Bytes.Basic

/-! # DER elements

Tag, length and content. Lengths have to be definite; a long form is read even where a short one
would do. Readers take a byte string and give what they read with the bytes after it.
-/

namespace Gatehouse.Der

inductive TagClass where
  | universal
  | application
  | context
  | priv
  deriving DecidableEq, Repr

/-- What stands before an element's content. -/
structure Header where
  tagClass : TagClass
  constructed : Bool
  tag : Nat
  length : Nat
  deriving DecidableEq

structure Element where
  tagClass : TagClass
  constructed : Bool
  tag : Nat
  content : Bytes
  deriving DecidableEq

abbrev Reader (α : Type) := Bytes → Option (α × Bytes)

def TagClass.ofByte (b : UInt8) : TagClass :=
  match b.toNat / 64 with
  | 0 => universal
  | 1 => application
  | 2 => context
  | _ => priv

/-- The rest of a tag number in base 128, of which at most `fuel` bytes are read and the lowest 32
bits count. -/
def readTagNumber : Nat → Nat → Reader Nat
  | 0, _, _ => none
  | _, _, [] => none
  | fuel + 1, n, b :: rest =>
    let n := (n * 128 + b.toNat % 128) % UInt32.size
    if b.toNat < 128 then some (n, rest) else readTagNumber fuel n rest

/-- The class of a tag, whether it is constructed, and its number. -/
def readTag : Reader (TagClass × Bool × Nat)
  | [] => none
  | b :: rest =>
    let constructed := b.toNat / 32 % 2 = 1
    let n := b.toNat % 32
    if n < 31 then some ((TagClass.ofByte b, constructed, n), rest)
    else (readTagNumber 5 0 rest).map fun (n, rest) => ((TagClass.ofByte b, constructed, n), rest)

def readLength : Reader Nat
  | [] => none
  | b :: rest =>
    let n := b.toNat
    if n < 128 then some (n, rest)
    else
      let count := n - 128
      let ds := rest.take count
      if count = 0 ∨ count = 127 ∨ ds.length < count then none
      else
        let value := ds.foldl (fun v d => v * 256 + d.toNat) 0
        if value < UInt64.size then some (value, rest.drop count) else none

def readHeader : Reader Header := fun s => do
  let ((tagClass, constructed, tag), s) ← readTag s
  let (length, s) ← readLength s
  return (⟨tagClass, constructed, tag, length⟩, s)

/-- The element that a header announces. -/
def readContent (h : Header) : Reader Element := fun s =>
  if h.length ≤ s.length then
    some (⟨h.tagClass, h.constructed, h.tag, s.take h.length⟩, s.drop h.length)
  else none

def read : Reader Element := fun s => do
  let (h, s) ← readHeader s
  readContent h s

/-- The content of an element with a given tag number, of any class. -/
def readTagged (tag : Nat) : Reader Bytes := fun s => do
  let (e, s) ← read s
  if e.tag = tag then return (e.content, s) else none

def readSequence : Reader Bytes :=
  readTagged 16

def readSet : Reader Bytes :=
  readTagged 17

/-- The content of an object identifier. Where one has to stand, any primitive element is taken for
it, whatever its tag. -/
def readOid : Reader Bytes := fun s => do
  let (e, s) ← read s
  if e.constructed = false then return (e.content, s) else none

/-- Whether the content of a bit string is canonical: the first byte counts the unused bits at the
end, which are zero. -/
def isBitString : Bytes → Bool
  | [] => false
  | [unused] => unused = 0
  | unused :: bits => unused.toNat ≤ 8 && (bits.getLastD 0).toNat % (1 <<< unused.toNat) = 0

/-- A bit string, of which only the form matters here. -/
def readBitString : Reader Bytes := fun s => do
  let (e, s) ← read s
  if e.tag = 3 ∧ e.constructed = false ∧ isBitString e.content then return (e.content, s) else none

/-- Whether the content of an integer is canonical, not negative, and below 2^32. -/
def isWord : Bytes → Bool
  | [] => false
  | [b] => b.toNat < 128
  | a :: b :: rest =>
    a.toNat < 128 && (a ≠ 0 || 128 ≤ b.toNat) &&
      (rest.length + 2 ≤ 4 || (a = 0 && rest.length + 2 = 5))

/-- An element that may be left out: it is there when a header can be read and has a tag that is
wanted. -/
def optional (wanted : Nat → Bool) (item : Reader Unit) : Reader Unit := fun s =>
  match readHeader s with
  | some (h, _) => if wanted h.tag then item s else some ((), s)
  | none => some ((), s)

/-- Reads as many items as there are. -/
def readMany {α : Type} (item : Reader α) : Nat → Bytes → List α × Bytes
  | 0, s => ([], s)
  | fuel + 1, s =>
    match item s with
    | none => ([], s)
    | some (a, rest) =>
      let (as, rest) := readMany item fuel rest
      (a :: as, rest)

/-- All the items at the start of a byte string, and the bytes after them. -/
def many {α : Type} (item : Reader α) (s : Bytes) : List α × Bytes :=
  readMany item s.length s

end Gatehouse.Der
