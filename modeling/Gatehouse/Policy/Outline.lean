import Gatehouse.Diagnostics.Outline
import Gatehouse.Policy.Basic
import Gatehouse.Time.Rfc3339

/-! # Policies in diagnostics

The outline of a policy: the role that it expects, the types of its rules and the findings that
identify the message and its issuer.
-/

namespace Gatehouse

def QualifiedName.outline (q : QualifiedName) : Outline :=
  .record "QualifiedName"
    [("namespace", .ofString? q.namespaceUri), ("local_name", .quoted q.localName)] true

def Issuer.outline (i : Issuer) : Outline :=
  .record "Issuer"
    [("name", .quoted i.name),
      ("format", .ofString? i.format),
      ("name_qualifier", .ofString? i.nameQualifier),
      ("sp_name_qualifier", .ofString? i.spNameQualifier)] true

namespace Policy

def outline? {α : Type} (outline : α → Outline) : Option α → Outline
  | none => .absent
  | some v => .present (outline v)

def outline (p : Policy) : Outline :=
  .record "SecurityPolicy"
    [("role", outline? QualifiedName.outline p.role),
      ("rules", .list (p.rules.map fun r => .quoted r.typeName)),
      ("message_id", .ofString? p.findings.messageId),
      ("issue_instant", outline? (fun t => .plain (Rfc3339.write t)) p.findings.issued),
      ("issuer", outline? Issuer.outline p.findings.issuer),
      ("authenticated", .plain (toString p.findings.authenticated))] false

end Policy

end Gatehouse
