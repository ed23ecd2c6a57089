import Gatehouse.Error
import Gatehouse.Message
import Gatehouse.Time.Rfc3339
import Gatehouse.Xml.Event

/-! # Message fragments

The text of a single XML element together with the header values read from it. They come from the
attributes of the root element and from its children: the first SAML 2.0 `Issuer`, or else the
attribute by which a SAML 1.x assertion names its issuer. Anything deeper is passed over, apart from
text inside the `Issuer` element.
-/

namespace Gatehouse

open Saml Xml

namespace Fragment

/-- The attributes that carry a message's identifier, in order of preference. -/
def idAttributes : List String :=
  ["ID", "ResponseID", "RequestID", "AssertionID"]

/-- What the root element says. -/
structure Root where
  element : QualifiedName
  schemaType : Option QualifiedName
  id : Option String
  issued : Option Instant
  protocol : Option String
  /-- The issuer that a SAML 1.x assertion names. -/
  assertionIssuer : Option String

/-- The schema type that an element declares: a name, read in the element's own scope. -/
def schemaType? (scope : Scope) (attributes : List Attribute) : Option QualifiedName :=
  (attributes.find? (·.name = QualifiedName.inNamespace schemaInstance "type")).map fun a =>
    scope.elementName (Text.trim a.value.toList)

/-- The identifier: that of the first identifying attribute present, if it is not empty. -/
def id? (attributes : List Attribute) : Option String :=
  (idAttributes.findSome? (Attribute.bareValue? attributes)).filter (!·.isEmpty)

/-- The issue instant, which has to be a timestamp if it is present. -/
def issued? (attributes : List Attribute) : Except Error (Option Instant) :=
  match Attribute.bareValue? attributes "IssueInstant" with
  | none => .ok none
  | some value =>
    match Rfc3339.readChars (Text.trim value.toList) with
    | some instant => .ok (some instant)
    | none => .error (.xml (.invalidInstant value))

/-- The protocol that elements of a namespace belong to. -/
def protocol? (namespaceUri : Option String) (attributes : List Attribute) : Option String :=
  if namespaceUri = some protocol20 ∨ namespaceUri = some assertion20 then some protocol20
  else if namespaceUri = some protocol10 ∨ namespaceUri = some assertion1 then
    if Attribute.bareValue? attributes "MinorVersion" = some "0" then some protocol10
    else some protocol11
  else none

def isAssertion1 (name : QualifiedName) : Bool :=
  name = QualifiedName.inNamespace assertion1 "Assertion"

def Root.ofElement (name : QualifiedName) (scope : Scope) (attributes : List Attribute) :
    Except Error Root :=
  (issued? attributes).map fun issued =>
    { element := name
      schemaType := schemaType? scope attributes
      id := id? attributes
      issued := issued
      protocol := protocol? name.namespaceUri attributes
      assertionIssuer :=
        if isAssertion1 name then
          (Attribute.bareValue? attributes "Issuer").filter (!·.isEmpty)
        else none }

/-- What the `Issuer` element says. -/
structure Claim where
  text : List Char
  format : Option String
  nameQualifier : Option String
  spNameQualifier : Option String

/-- The claim that the attributes of an `Issuer` element make, its text still to come. The last
attribute of a name counts. -/
def Claim.ofAttributes (attributes : List Attribute) : Claim :=
  let last (name : String) := Attribute.bareValue? attributes.reverse name
  ⟨[], last "Format", last "NameQualifier", last "SPNameQualifier"⟩

/-- The issuer claimed, unless its name is blank. -/
def Claim.issuer? (c : Claim) : Option Issuer :=
  let name := Text.trim c.text
  if name.isEmpty then none
  else some ⟨String.ofList name, c.format, c.nameQualifier, c.spNameQualifier⟩

/-- How far a document has been read. -/
structure Progress where
  root : Option Root
  /-- Whether the root element has been closed. -/
  closed : Bool
  depth : Nat
  /-- The claim of the first SAML 2.0 `Issuer` below the root. -/
  claim : Option Claim
  /-- Whether text still adds to the claim: from its start tag to the next end tag. -/
  inIssuer : Bool
  /-- The issuer that a SAML 1.x assertion below the root names. -/
  assertionIssuer : Option String

def Progress.start : Progress :=
  ⟨none, false, 0, none, false, none⟩

def Progress.child (p : Progress) (name : QualifiedName) (attributes : List Attribute)
    (hasContent : Bool) : Progress :=
  if name = QualifiedName.inNamespace assertion20 "Issuer" ∧ p.claim.isNone then
    { p with claim := some (Claim.ofAttributes attributes), inIssuer := hasContent }
  else if isAssertion1 name ∧ p.assertionIssuer.isNone then
    { p with assertionIssuer := Attribute.bareValue? attributes "Issuer" }
  else p

def Progress.element (p : Progress) (e : Element) (hasContent : Bool) :
    Except Error Progress :=
  if p.closed then .error (.xml .contentAfterRoot)
  else match e.attributes? with
    | none => .error (.xml .malformed)
    | some attributes =>
      match p.depth with
      | 0 => (Root.ofElement e.name e.scope attributes).map fun root => { p with root := some root }
      | 1 => .ok (p.child e.name attributes hasContent)
      | _ => .ok p

def Progress.text (p : Progress) (raw : List Char) : Except Error Progress :=
  if p.depth = 0 then .error (.xml .textOutsideRoot)
  else match p.claim with
    | none => .ok p
    | some claim =>
      if p.inIssuer then
        match resolve? raw with
        | some cs => .ok { p with claim := some { claim with text := claim.text ++ cs } }
        | none => .error (.xml .malformed)
      else .ok p

def Progress.step (p : Progress) : Event → Except Error Progress
  | .opened e => (p.element e true).map fun p => { p with depth := p.depth + 1 }
  | .empty e =>
    (p.element e false).map fun p => { p with closed := p.closed || p.depth == 0 }
  | .closed =>
    let depth := p.depth - 1
    .ok { p with depth := depth, inIssuer := false, closed := p.closed || depth == 0 }
  | .text raw => p.text raw

/-- What a document says that has been read to its end. -/
def Progress.finish (p : Progress) : Except Error Message :=
  match p.root with
  | none => .error (.xml .noRoot)
  | some root =>
    if p.closed then
      .ok { element := root.element
            schemaType := root.schemaType
            id := root.id
            issued := root.issued
            protocol := root.protocol
            issuer :=
              (p.claim.bind Claim.issuer?) <|>
                (root.assertionIssuer <|> p.assertionIssuer.filter (!·.isEmpty)).map Issuer.named }
    else .error (.xml .unterminatedRoot)

/-- The header values of a text that has exactly one root element. The first fault counts, in the
order of the text. -/
def readMessage (text : List Char) : Except Error Message := do
  let (events, complete) := Event.list text
  let progress ← events.foldlM Progress.step Progress.start
  if complete then progress.finish else .error (.xml .malformed)

end Fragment

/-- An element's text and what is read from it. A fragment that is attached is part of a larger
document. -/
structure Fragment where
  xml : String
  message : Message
  /-- What contains the fragment, if it is attached. -/
  parent : Option String
  message_eq : Fragment.readMessage xml.toList = .ok message
  deriving DecidableEq

namespace Fragment

/-- A fragment is known by its text and by what contains it. -/
theorem ext {a b : Fragment} (xml : a.xml = b.xml) (parent : a.parent = b.parent) : a = b := by
  obtain ⟨xa, ma, pa, ha⟩ := a
  obtain ⟨xb, mb, pb, hb⟩ := b
  subst xml parent
  obtain rfl : ma = mb := Except.ok.inj (ha.symm.trans hb)
  rfl

def parse (xml : String) : Except Error Fragment :=
  match h : readMessage xml.toList with
  | .ok message => .ok ⟨xml, message, none, h⟩
  | .error fault => .error fault

def attachedTo (f : Fragment) (parent : String) : Fragment :=
  { f with parent := some parent }

def detached (f : Fragment) : Fragment :=
  { f with parent := none }

/-- The text of a fragment reads as the fragment on its own. -/
theorem parse_xml (f : Fragment) : parse f.xml = .ok f.detached := by
  unfold parse
  split
  · next message read =>
      obtain rfl : f.message = message := Except.ok.inj (f.message_eq.symm.trans read)
      rfl
  · next fault refused => cases f.message_eq.symm.trans refused

/-- A text is parsed if it is read, to a fragment with what is read. -/
theorem parse_eq_ok_iff {xml : String} {f : Fragment} :
    parse xml = .ok f ↔ f.xml = xml ∧ f.parent = none := by
  constructor
  · unfold parse
    split
    · intro parsed
      cases parsed
      exact ⟨rfl, rfl⟩
    · intro parsed
      cases parsed
  · rintro ⟨rfl, alone⟩
    rw [parse_xml, ← ext (a := f) (b := f.detached) rfl alone]

theorem readMessage_of_parse {xml : String} {f : Fragment} (parsed : parse xml = .ok f) :
    readMessage xml.toList = .ok f.message :=
  (parse_eq_ok_iff.1 parsed).1 ▸ f.message_eq

theorem parse_of_readMessage {xml : String} {message : Message}
    (read : readMessage xml.toList = .ok message) :
    ∃ f, parse xml = .ok f ∧ f.message = message :=
  ⟨⟨xml, message, none, read⟩, parse_eq_ok_iff.2 ⟨rfl, rfl⟩, rfl⟩

end Fragment

end Gatehouse
