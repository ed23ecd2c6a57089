import Gatehouse.Xml.Namespace
import Gatehouse.Xml.Reference

/-! # Document events

What a reader meets in a document from its start to its end: elements that open and close, with
their names resolved, and text that is not blank. End tags have to name the element that is open.
Comments, CDATA sections, processing instructions and document types leave no event.
-/

namespace Gatehouse.Xml

/-- An attribute that is no namespace declaration, its references resolved. -/
structure Attribute where
  name : QualifiedName
  value : String
  deriving DecidableEq

/-- The first attribute with a name that is in no namespace. -/
def Attribute.bareValue? (attributes : List Attribute) (name : String) : Option String :=
  (attributes.find? (·.name = QualifiedName.bare name)).map (·.value)

/-- A tag that opens an element. -/
structure Element where
  name : QualifiedName
  /-- The attributes, unless one is malformed or stands there twice. -/
  attributes? : Option (List Attribute)
  /-- The scope inside the element. -/
  scope : Scope
  deriving DecidableEq

inductive Event where
  | opened (element : Element)
  /-- An element without content, opened and closed by one tag. -/
  | empty (element : Element)
  | closed
  /-- Text without the white space around it and with its references not resolved. -/
  | text (raw : List Char)
  deriving DecidableEq

/-- An element that is open: its name as written, and the scope around it. -/
structure OpenElement where
  name : List Char
  outer : Scope

/-- The attributes of a tag with their names and values resolved. -/
def RawTag.attributes? (tag : RawTag) (scope : Scope) : Option (List Attribute) :=
  if tag.complete && (tag.attributes.map (·.name)).Nodup then
    (tag.attributes.filter fun a => (declared? a.name).isNone).mapM fun a =>
      (resolve? a.value).map fun value => ⟨scope.attributeName a.name, String.ofList value⟩
  else none

def RawTag.element? (tag : RawTag) (scope : Scope) : Option Element :=
  (scope.enter? tag.attributes).map fun inner =>
    ⟨inner.elementName tag.name, tag.attributes? inner, inner⟩

/-- Where a reader of markup stands: the scope there and the open elements, innermost first. -/
structure Position where
  scope : Scope
  openElements : List OpenElement

def Position.start : Position :=
  ⟨Scope.initial, []⟩

def Position.openTag? (p : Position) (body : List Char) : Option (Event × Position) :=
  if body.getLast? = some '/' then
    ((RawTag.ofBody body.dropLast).element? p.scope).map fun e => (.empty e, p)
  else
    let tag := RawTag.ofBody body
    (tag.element? p.scope).map fun e =>
      (.opened e, ⟨e.scope, ⟨tag.name, p.scope⟩ :: p.openElements⟩)

/-- The name in an end tag: white space may follow it, but where there is nothing else the white
space is the name. -/
def endName (body : List Char) : List Char :=
  let name := (body.reverse.dropWhile isSpace).reverse
  if name.isEmpty then body else name

/-- Reads an end tag, which has to name the innermost open element. -/
def Position.closeTag? (p : Position) (body : List Char) : Option (Event × Position) :=
  match p.openElements with
  | [] => none
  | e :: outer => if endName body = e.name then some (.closed, ⟨e.outer, outer⟩) else none

/-- Reads a piece of markup, which may leave no event. -/
def Position.read? (p : Position) : Markup → Option (Option Event × Position)
  | .text raw =>
    let raw := Text.strip isSpace raw
    some (if raw.isEmpty then none else some (.text raw), p)
  | .startTag body => (p.openTag? body).map fun (e, p) => (some e, p)
  | .endTag body => (p.closeTag? body).map fun (e, p) => (some e, p)
  | .comment _ => some (none, p)
  | .cdata _ => some (none, p)
  | .instruction _ => some (none, p)
  | .doctype _ => some (none, p)

/-- The events of pieces of markup up to the first that does not fit, and whether there is none
such. Elements that are left open are no fault here. -/
def Event.ofMarkup (p : Position) : List Markup → List Event × Bool
  | [] => ([], true)
  | piece :: rest =>
    match p.read? piece with
    | none => ([], false)
    | some (event, p) =>
      let (events, complete) := ofMarkup p rest
      (event.toList ++ events, complete)

/-- The events of a text up to its first fault, and whether it has none. One byte order mark at
the start is passed over. -/
def Event.list (text : List Char) : List Event × Bool :=
  let text := match text with
    | c :: rest => if c = Char.ofNat 0xFEFF then rest else text
    | [] => []
  let (pieces, complete) := Markup.scan text
  let (events, fit) := ofMarkup Position.start pieces
  (events, complete && fit)

end Gatehouse.Xml
