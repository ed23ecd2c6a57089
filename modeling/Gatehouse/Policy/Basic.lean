import Gatehouse.IssuerMatching
import Gatehouse.Metadata.Role
import Gatehouse.Policy.Rule
import Gatehouse.Time.Instant

/-! # Policies

A policy is a chain of rules and what they have found out about the message under evaluation. Once
an issuer is found, every later claim has to agree with it, so rules that learn of the issuer in
different ways cannot contradict each other.
-/

namespace Gatehouse

/-- What is known about a message. -/
structure Findings where
  /-- The instant that counts as now, once it is fixed. -/
  time : Option Instant := none
  messageId : Option String := none
  issued : Option Instant := none
  issuer : Option Issuer := none
  /-- The role that the issuer plays. -/
  issuerMetadata : Option Role := none
  /-- Whether a rule has established that the message comes from its issuer. -/
  authenticated : Bool := false
  deriving DecidableEq

structure Policy where
  /-- The role that issuers are expected to play. -/
  role : Option QualifiedName := none
  security : SecuritySettings := {}
  /-- Whether what rules process is to be validated against its schema. -/
  validating : Bool := true
  /-- Whether an issuer has to be named by the entity format. -/
  requireEntityIssuer : Bool := true
  audiences : List String := []
  /-- The identifier of the request that the message answers. -/
  correlationId : Option String := none
  matching : IssuerMatching := .standard
  rules : List Rule := []
  findings : Findings := {}

namespace Policy

def clockSkew (p : Policy) : Duration :=
  p.security.clockSkew

/-- The instant that counts as now, the clock's reading where none is fixed. -/
def time (p : Policy) (clock : Instant) : Instant :=
  p.findings.time.getD clock

def withTime (p : Policy) (now : Instant) : Policy :=
  { p with findings := { p.findings with time := some now } }

def withMessageId (p : Policy) (id : Option String) : Policy :=
  { p with findings := { p.findings with messageId := id } }

def withIssued (p : Policy) (issued : Option Instant) : Policy :=
  { p with findings := { p.findings with issued := issued } }

def withAuthenticated (p : Policy) (authenticated : Bool) : Policy :=
  { p with findings := { p.findings with authenticated := authenticated } }

/-- Records a first issuer. The role of an earlier issuer is not its. -/
def withIssuer (p : Policy) (issuer : Issuer) : Policy :=
  { p with findings := { p.findings with issuer := some issuer, issuerMetadata := none } }

/-- Takes note of a claim about the issuer. It has to agree with the issuer recorded; the first one
is recorded, if its format is acceptable. -/
def claimIssuer (p : Policy) (issuer : Issuer) : Except Error Policy :=
  match p.findings.issuer with
  | some existing =>
    if p.matching.agrees (some existing) (some issuer) then .ok p
    else .error (.issuerConflict existing.text issuer.text)
  | none =>
    if p.requireEntityIssuer && !issuer.isEntity then .error (.nonEntityIssuer issuer.text)
    else .ok (p.withIssuer issuer)

/-- Takes note of a claim that gives the issuer by name alone. An empty name claims nothing. -/
def claimIssuerName (p : Policy) (name : String) : Except Error Policy :=
  if name.isEmpty then .ok p
  else match p.findings.issuer with
    | some existing =>
      if p.matching.agreesWithName (some existing) name then .ok p
      else .error (.issuerConflict existing.text name)
    | none => .ok (p.withIssuer (.named name))

/-- Records the role of the issuer, or clears it. A role that is recorded cannot be exchanged for a
different one. -/
def setIssuerMetadata (p : Policy) : Option Role → Except Error Policy
  | none => .ok { p with findings := { p.findings with issuerMetadata := none } }
  | some role =>
    match p.findings.issuerMetadata with
    | none => .ok { p with findings := { p.findings with issuerMetadata := some role } }
    | some current => if current = role then .ok p else .error .metadataConflict

/-- The policy as it is before the next message. What is known about the issuer may be kept. -/
def reset (p : Policy) (keepIssuer : Bool) : Policy :=
  let findings : Findings :=
    if keepIssuer then
      { issuer := p.findings.issuer
        issuerMetadata := p.findings.issuerMetadata
        authenticated := p.findings.authenticated }
    else {}
  { p with findings := findings }

/-- Inserts a rule before the one at a position, or at the end. -/
def insertRule (p : Policy) (position : Option Nat) (rule : Rule) : Policy :=
  { p with rules := p.rules.insertIdx (min (position.getD p.rules.length) p.rules.length) rule }

end Policy

end Gatehouse
