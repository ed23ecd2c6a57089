import Gatehouse.Json.Record
import Gatehouse.Saml.Vocabulary

/-! # Issuers

The claimed sender of a message: a name with an optional format and two optional qualifiers. A name
without a format has the entity format; a format that is present but empty is no known format.
-/

namespace Gatehouse

open Saml

structure Issuer where
  name : String
  format : Option String
  nameQualifier : Option String
  spNameQualifier : Option String
  deriving DecidableEq, Repr

namespace Issuer

def named (name : String) : Issuer :=
  ⟨name, none, none, none⟩

/-- An issuer that states that its name is an entity's. -/
def entity (name : String) : Issuer :=
  ⟨name, some NameFormat.entity.uri, none, none⟩

/-- The format of the name, the entity format where none is given. -/
def effectiveFormat (i : Issuer) : String :=
  i.format.getD NameFormat.entity.uri

def isEntity (i : Issuer) : Bool :=
  i.effectiveFormat = NameFormat.entity.uri

/-- The issuer as errors show it: the name, and the format unless it is the entity format. -/
def text (i : Issuer) : String :=
  if i.isEntity then i.name else i.name ++ " (" ++ i.effectiveFormat ++ ")"

/-- The record form, without the fields that are absent. -/
def toJson (i : Issuer) : Json :=
  let field (name : String) (value : Option String) : List (String × Json) :=
    value.toList.map fun v => (name, .string v)
  .object (("name", .string i.name) :: field "format" i.format ++
    field "name_qualifier" i.nameQualifier ++ field "sp_name_qualifier" i.spNameQualifier)

/-- Reads the record form: an object, or the four values in an array. -/
def ofJson? (j : Json) : Option Issuer := do
  let [name, format, nameQualifier, spNameQualifier] ←
    j.fields? ["name", "format", "name_qualifier", "sp_name_qualifier"] 4 | none
  let optional := Json.orDefault? (Json.nullable? Json.string?) none
  return ⟨← (← name).string?, ← optional format, ← optional nameQualifier,
    ← optional spNameQualifier⟩

end Issuer

end Gatehouse
