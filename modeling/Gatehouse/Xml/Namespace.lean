import Gatehouse.QualifiedName
import Gatehouse.Xml.Attribute

/-! # Namespaces

The bindings of prefixes to namespaces that hold at a place in a document, and the qualified names
that written names have there. A prefix that is bound to nothing is no error: a name that uses it
has no namespace.
-/

namespace Gatehouse.Xml

/-- A prefix, or the absence of one, bound to a namespace; an empty URI undoes the binding. -/
structure Binding where
  label : Option (List Char)
  uri : List Char
  deriving DecidableEq

/-- The bindings that hold at a place, innermost first. -/
abbrev Scope := List Binding

def xmlUri : List Char :=
  "http://www.w3.org/XML/1998/namespace".toList

def xmlnsUri : List Char :=
  "http://www.w3.org/2000/xmlns/".toList

/-- The bindings that hold in every document. -/
def Scope.initial : Scope :=
  [⟨some "xml".toList, xmlUri⟩, ⟨some "xmlns".toList, xmlnsUri⟩]

/-- The prefix that an attribute of this name declares, if it is a namespace declaration. -/
def declared? (name : List Char) : Option (Option (List Char)) :=
  if name = "xmlns".toList then some none
  else if "xmlns:".toList.isPrefixOf name then some (some (name.drop 6))
  else none

/-- Whether a namespace declaration leaves the reserved prefixes and namespaces alone. -/
def isAllowedBinding (label : Option (List Char)) (uri : List Char) : Bool :=
  match label with
  | none => true
  | some label =>
    if label = "xml".toList then uri = xmlUri
    else label ≠ "xmlns".toList && uri ≠ xmlUri && uri ≠ xmlnsUri

/-- The scope inside a tag with the given attributes, unless one of them declares what it may
not. A declaration of the empty prefix declares the default namespace. -/
def Scope.enter? (scope : Scope) : List RawAttribute → Option Scope
  | [] => some scope
  | a :: rest =>
    match declared? a.name with
    | none => enter? scope rest
    | some label =>
      if isAllowedBinding label a.value then
        if label = some "xml".toList then enter? scope rest
        else enter? (⟨label.filter (!·.isEmpty), a.value⟩ :: scope) rest
      else none

/-- The namespace bound to a prefix or, without one, the default namespace. -/
def Scope.namespaceUri (scope : Scope) (label : Option (List Char)) : Option String :=
  match scope.find? (·.label = label) with
  | some binding => if binding.uri.isEmpty then none else some (String.ofList binding.uri)
  | none => none

/-- The prefix of a written name, if it has one, and its local part. -/
def splitName (name : List Char) : Option (List Char) × List Char :=
  match Text.cut? ':' name with
  | some (label, localName) => (some label, localName)
  | none => (none, name)

def Scope.elementName (scope : Scope) (name : List Char) : QualifiedName :=
  let (label, localName) := splitName name
  ⟨scope.namespaceUri label, String.ofList localName⟩

/-- The qualified name of an attribute: without a prefix it has no namespace. -/
def Scope.attributeName (scope : Scope) (name : List Char) : QualifiedName :=
  let (label, localName) := splitName name
  ⟨label.bind fun label => scope.namespaceUri (some label), String.ofList localName⟩

end Gatehouse.Xml
