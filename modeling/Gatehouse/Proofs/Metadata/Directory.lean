import Gatehouse.Metadata.Directory
import Gatehouse.Proofs.Data.Groups
import Gatehouse.Saml.Vocabulary

/-! # Looking roles up

A directory answers as if it searched the roles in the order in which they were added. Keeping them
in groups, by entity and name, changes nothing about which one comes first.
-/

namespace Gatehouse.Directory

/-- Whether a role is one of those that a lookup is for. -/
def sought (entityId : String) (name : QualifiedName) (protocol : String) (r : Role) : Bool :=
  r.entityId = entityId && r.name = name && r.supports protocol

variable {d : Directory} {roles : List Role} {r : Role} {entityId protocol : String}
  {name : QualifiedName}

theorem sought_iff : sought entityId name protocol r = true ↔
    r.entityId = entityId ∧ r.name = name ∧ protocol ∈ r.protocols := by
  simp [sought, Role.supports, and_assoc]

theorem roles_foldl_add : (roles.foldl add d).roles =
    d.roles.addAll (roles.map fun r => ((r.entityId, r.name), r)) := by
  rw [Groups.addAll, List.foldl_map]
  exact (List.foldl_hom Directory.roles fun _ _ => rfl).symm

theorem get_foldl_add : (roles.foldl add d).roles.get (entityId, name) =
    d.roles.get (entityId, name) ++
      roles.filter fun r => r.entityId = entityId && r.name = name := by
  rw [roles_foldl_add, Groups.get_addAll, Groups.under, List.filter_map, List.map_map]
  simp [Function.comp_def]

/-- Roles that are added answer where nothing has answered before. -/
theorem lookup_foldl_add : (roles.foldl add d).lookup entityId name protocol =
    (d.lookup entityId name protocol).or (roles.find? (sought entityId name protocol)) := by
  rw [lookup, get_foldl_add, List.find?_append, List.find?_filter]
  simp only [Bool.decide_and, Bool.decide_eq_true]
  rfl

theorem lookup_ofList : (ofList roles).lookup entityId name protocol =
    roles.find? (sought entityId name protocol) := by
  rw [ofList, lookup_foldl_add]
  exact Option.none_or

theorem size_ofList : (ofList roles).size = roles.length := by
  rw [ofList, size, roles_foldl_add, Groups.size_addAll, List.length_map]
  exact Nat.zero_add _

/-- A directory answers as a search through the roles in the order in which they were added. What
has an answer keeps it when a role is added, and every role that was added is held. -/
theorem lookup_searches_in_order (roles : List Role) (entityId : String) (name : QualifiedName)
    (protocol : String) :
    let d := ofList roles
    let wanted (r : Role) := r.entityId = entityId ∧ r.name = name ∧ protocol ∈ r.protocols
    (∀ r, d.lookup entityId name protocol = some r ↔ ∃ before after,
      roles = before ++ r :: after ∧ wanted r ∧ ∀ earlier ∈ before, ¬ wanted earlier) ∧
    (d.lookup entityId name protocol = none ↔ ∀ r ∈ roles, ¬ wanted r) ∧
    (∀ r added, d.lookup entityId name protocol = some r →
      (d.add added).lookup entityId name protocol = some r) ∧
    d.size = roles.length := by
  intro d wanted
  have passes (r : Role) : (!sought entityId name protocol r) = true ↔ ¬ wanted r := by
    rw [Bool.not_eq_true', ← Bool.not_eq_true, sought_iff]
  refine ⟨fun r => ?_, ?_, fun r added found => ?_, size_ofList⟩
  · rw [lookup_ofList, List.find?_eq_some_iff_append, sought_iff]
    simp only [passes]
    constructor
    · rintro ⟨meets, before, after, whole, first⟩
      exact ⟨before, after, whole, meets, first⟩
    · rintro ⟨before, after, whole, meets, first⟩
      exact ⟨meets, before, after, whole, first⟩
  · rw [lookup_ofList, List.find?_eq_none]
    simp only [sought_iff, wanted]
  · have answer : ([added].foldl add d).lookup entityId name protocol =
        (d.lookup entityId name protocol).or _ := lookup_foldl_add
    rwa [found, Option.some_or] at answer

/-- An identity provider that supports some protocols. -/
def samplePeer (protocols : List String) : Role :=
  ⟨"https://idp.example", .inNamespace Saml.metadata20 "IDPSSODescriptor", protocols, []⟩

/-- Of two roles of one name the one for the protocol is found, also when a third is added that
would serve for it. -/
theorem samplePeer_kept :
    let first := samplePeer [Saml.protocol11]
    let second := samplePeer [Saml.protocol20]
    let d := ofList [first, second]
    let answer (d : Directory) := d.lookup "https://idp.example" first.name Saml.protocol20
    answer d = some second ∧
      answer (d.add (samplePeer [Saml.protocol11, Saml.protocol20])) = some second ∧
      d.size = 2 := by
  intro first second d answer
  have search := lookup_searches_in_order [first, second] "https://idp.example" first.name
    Saml.protocol20
  have found : answer d = some second := by decide +kernel
  exact ⟨found, search.2.2.1 second _ found, search.2.2.2⟩

end Gatehouse.Directory
