import Gatehouse.Data.Groups
import Gatehouse.Metadata.Role

/-! # Directories

The roles that are known, held by entity and role name. An entity may have several roles of one
name, one for each protocol, say; the one added first is preferred. Those who look a role up do not
ask how it is held: a directory is one provider of metadata among others.
-/

namespace Gatehouse

/-- Who answers when the role is wanted that an entity plays under a name and a protocol. -/
structure MetadataProvider where
  lookup : (entityId : String) → (name : QualifiedName) → (protocol : String) → Option Role

structure Directory where
  roles : Groups (String × QualifiedName) Role

namespace Directory

def empty : Directory :=
  ⟨.empty⟩

def add (d : Directory) (r : Role) : Directory :=
  ⟨d.roles.add (r.entityId, r.name) r⟩

def ofList (roles : List Role) : Directory :=
  roles.foldl add empty

def size (d : Directory) : Nat :=
  d.roles.size

/-- The first role of an entity that has a given name and supports a given protocol. -/
def lookup (d : Directory) (entityId : String) (name : QualifiedName) (protocol : String) :
    Option Role :=
  (d.roles.get (entityId, name)).find? (·.supports protocol)

def provider (d : Directory) : MetadataProvider :=
  ⟨d.lookup⟩

instance : Coe Directory MetadataProvider := ⟨provider⟩

@[simp]
theorem provider_lookup (d : Directory) : d.provider.lookup = d.lookup :=
  rfl

end Directory

end Gatehouse
