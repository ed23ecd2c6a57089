import Gatehouse.Config.Settings
import Gatehouse.QualifiedName

/-! # Rules

The kinds of rule that a policy may be made of, each with its settings, and how a deployment
descriptor names them.
-/

namespace Gatehouse

inductive Rule where
  /-- Takes the header values of the message over into the findings and looks up the issuer. -/
  | messageExtraction
  /-- Rejects messages that are too old, from the future or replayed. -/
  | messageFlow (settings : MessageFlowSettings)
  /-- Authenticates the issuer by the certificate that the client presented. -/
  | clientCertificate (settings : ClientCertSettings)
  /-- Takes note of content of one type, by its schema type or else by its element's name. -/
  | ignore (name : QualifiedName)
  /-- Authenticates every issuer. -/
  | nullSecurity
  deriving DecidableEq

namespace Rule

def typeName : Rule → String
  | messageExtraction => "MessageExtraction"
  | messageFlow _ => "MessageFlow"
  | clientCertificate _ => "ClientCertAuth"
  | ignore _ => "Ignore"
  | nullSecurity => "NullSecurity"

/-- The rule that ignores the type named by the attribute `type`. -/
def ignoreOfAttributes (attributes : Attributes) : Except Error Rule :=
  match attributes.string? "type" with
  | none => .error (.configuration .ignoreWithoutType)
  | some text =>
    match QualifiedName.parse? text with
    | some name => .ok (ignore name)
    | none => .error (.configuration (.invalidTypeName text))

/-- The rule with a given type name, its settings read from attributes. -/
def ofAttributes (type : String) (attributes : Attributes) : Except Error Rule :=
  if type = "MessageFlow" then (MessageFlowSettings.ofAttributes attributes).map messageFlow
  else if type = "ClientCertAuth" then
    .ok (clientCertificate (ClientCertSettings.ofAttributes attributes))
  else if type = "MessageExtraction" then .ok messageExtraction
  else if type = "Ignore" then ignoreOfAttributes attributes
  else if type = "NullSecurity" then .ok nullSecurity
  else .error (.configuration (.unknownRuleType type))

end Rule

end Gatehouse
