import Gatehouse.Issuer

/-! # Comparing issuers

Whether a new claim about the sender of a message agrees with the issuer already recorded. A policy
compares with one of these; deployments install looser or stricter ones.
-/

namespace Gatehouse

open Saml

/-- A way to compare the recorded issuer with a claim, given in full or by name alone. -/
structure IssuerMatching where
  agrees : Option Issuer → Option Issuer → Bool
  agreesWithName : Option Issuer → String → Bool

namespace IssuerMatching

/-- Two issuers agree in name, format and both qualifiers, an absent qualifier being empty; where
one is missing there is nothing to compare. -/
def strictAgrees : Option Issuer → Option Issuer → Bool
  | some a, some b =>
    a.name = b.name && a.effectiveFormat = b.effectiveFormat &&
      a.nameQualifier.getD "" = b.nameQualifier.getD "" &&
      a.spNameQualifier.getD "" = b.spNameQualifier.getD ""
  | _, _ => true

/-- A bare name agrees with an issuer of that name that has the entity format and no qualifiers. A
missing issuer and an empty name agree with everything. -/
def strictAgreesWithName : Option Issuer → String → Bool
  | none, _ => true
  | some a, name =>
    name.isEmpty ||
      (a.name = name && a.isEntity && (a.nameQualifier.getD "").isEmpty &&
        (a.spNameQualifier.getD "").isEmpty)

/-- The comparison that policies use unless told otherwise. -/
def standard : IssuerMatching :=
  ⟨strictAgrees, strictAgreesWithName⟩

/-- Takes any two issuers for the same. -/
def lenient : IssuerMatching :=
  { standard with agrees := fun _ _ => true }

/-- Compares only the names, and those without regard to the case of ASCII letters. -/
def ignoringCase : IssuerMatching :=
  { standard with
    agrees := fun
      | some a, some b => a.name.toList.map Char.toLower = b.name.toList.map Char.toLower
      | _, _ => true }

end IssuerMatching

end Gatehouse
