import Gatehouse.Asn1.Der
import Gatehouse.Asn1.ObjectName
import Gatehouse.Bytes.Utf16
import Gatehouse.Bytes.Utf32

/-! # Distinguished names

The subject of a certificate: a list of sets of attributes. Reading stops at the first set that is
malformed, and within a set at the first attribute that is.
-/

namespace Gatehouse

structure NameAttribute where
  /-- The content of its object identifier. -/
  oid : Bytes
  tag : Nat
  value : Bytes
  deriving DecidableEq

abbrev DistinguishedName := List (List NameAttribute)

namespace NameAttribute

/-- The types that are abbreviated. -/
def abbreviations : List (List Nat × String) :=
  [([2, 5, 4, 3], "CN"), ([2, 5, 4, 6], "C"), ([2, 5, 4, 7], "L"), ([2, 5, 4, 8], "ST"),
   ([2, 5, 4, 10], "O"), ([2, 5, 4, 11], "OU"), ([0, 9, 2342, 19200300, 100, 1, 25], "DC"),
   ([1, 2, 840, 113549, 1, 9, 1], "Email")]

/-- The name of the attribute's type: its abbreviation, or else its registered name, or else its
numbers. -/
def typeText (a : NameAttribute) : String :=
  ((ObjectIdentifier.nameIn? abbreviations a.oid) <|> ObjectIdentifier.name? a.oid).getD
    ("OID(" ++ ObjectIdentifier.text a.oid ++ ")")

/-- The tags of the string types that are read as UTF-8. -/
def textTags : List Nat :=
  [7, 12, 18, 19, 20, 21, 22, 25, 26, 27]

/-- The value: the text of a string type, unless it is malformed, and anything else in
hexadecimal. -/
def valueText? (a : NameAttribute) : Option String :=
  if a.tag ∈ textTags then a.value.toString?
  else if a.tag = 28 then Utf32.decode? a.value
  else if a.tag = 30 then Utf16.decode? a.value
  else some (Hex.encode a.value).toUpper

def text? (a : NameAttribute) : Option String :=
  a.valueText?.map fun value => a.typeText ++ "=" ++ value

/-- Reads an attribute: a sequence of an object identifier and a value of any kind. -/
def read : Der.Reader NameAttribute := fun s => do
  let (content, s) ← Der.readSequence s
  let (oid, content) ← Der.readOid content
  let (value, _) ← Der.read content
  return (⟨oid, value.tag, value.content⟩, s)

end NameAttribute

namespace DistinguishedName

def text? (name : DistinguishedName) : Option String := do
  let sets ← name.mapM fun set => do
    return " + ".intercalate (← set.mapM NameAttribute.text?)
  return ", ".intercalate sets

def text (name : DistinguishedName) : String :=
  name.text?.getD "<X509Error: Invalid X.509 name>"

/-- Reads a set that has at least one attribute. -/
def readSet : Der.Reader (List NameAttribute) := fun s => do
  let (content, s) ← Der.readSet s
  let attributes := (Der.many NameAttribute.read content).1
  if attributes.isEmpty then none else return (attributes, s)

def read : Der.Reader DistinguishedName := fun s => do
  let (content, s) ← Der.readSequence s
  return ((Der.many readSet content).1, s)

end DistinguishedName

end Gatehouse
