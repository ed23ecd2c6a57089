import Gatehouse.Bytes.Hex

/-! # Percent-encoding

Writing the bytes of characters outside a class as a percent sign and two digits, and reading them
back. A percent sign that two hexadecimal digits do not follow stands for itself.
-/

namespace Gatehouse.Percent

/-- A byte as a percent sign and two upper-case digits. -/
def encodeByte (b : UInt8) : List Char :=
  '%' :: (Hex.encodeByte b).map Char.toUpper

/-- A character, encoded if it is in the class. -/
def encodeChar (unsafeIn : Char → Bool) (c : Char) : List Char :=
  if unsafeIn c then (Bytes.ofString c.toString).flatMap encodeByte else [c]

def encode (unsafeIn : Char → Bool) (s : List Char) : List Char :=
  s.flatMap (encodeChar unsafeIn)

/-- The characters below the space, the delete character and all that are not ASCII. -/
def isControl (c : Char) : Bool :=
  c.toNat < 0x20 || 0x7F ≤ c.toNat

/-- The control characters and some others. -/
def inClass (others : List Char) (c : Char) : Bool :=
  isControl c || others.contains c

def inFragment : Char → Bool :=
  inClass [' ', '"', '<', '>', '\x60']

def inPath : Char → Bool :=
  inClass [' ', '"', '<', '>', '\x60', '#', '?', '{', '}']

def inUserInfo : Char → Bool :=
  inClass [' ', '"', '<', '>', '\x60', '#', '?', '{', '}', '/', ':', ';', '=', '@', '[', '\\', ']',
    '^', '|']

/-- The class of a query, to which special schemes add the apostrophe. -/
def inQuery (special : Bool) : Char → Bool :=
  inClass ([' ', '"', '#', '<', '>'] ++ if special then ['\''] else [])

/-- The bytes that a byte string stands for. -/
def decode : Bytes → Bytes
  | [] => []
  | b :: hi :: lo :: rest =>
    match b.toNat == 37, Hex.digit? (Char.ofNat hi.toNat), Hex.digit? (Char.ofNat lo.toNat) with
    | true, some h, some l => UInt8.ofNat (h * 16 + l) :: decode rest
    | _, _, _ => b :: decode (hi :: lo :: rest)
  | b :: rest => b :: decode rest

end Gatehouse.Percent
