import Gatehouse.Xml.Markup

/-! # The attributes of a tag

Splitting the inside of a start tag into the element's name and its attributes, as they are
written. A name is whatever stands before white space or an equals sign: the characters of names
are not checked, and no white space is needed between one attribute and the next.
-/

namespace Gatehouse.Xml

/-- An attribute as written, its references not resolved. -/
structure RawAttribute where
  name : List Char
  value : List Char
  deriving DecidableEq

namespace RawAttribute

/-- Reads a value: white space, then a quoted text. -/
def readValue? (s : List Char) : Option (List Char × List Char) :=
  match s.dropWhile isSpace with
  | [] => none
  | quote :: rest =>
    if quote = '"' ∨ quote = '\'' then Text.cut? quote rest else none

/-- Reads an attribute from a text that does not begin with white space. The first character
belongs to the name even if it is an equals sign. -/
def read? : List Char → Option (RawAttribute × List Char)
  | [] => none
  | c :: rest =>
    let inName := fun c => c ≠ '=' && !isSpace c
    match (rest.dropWhile inName).dropWhile isSpace with
    | '=' :: rest' =>
      (readValue? rest').map fun (value, after) => (⟨c :: rest.takeWhile inName, value⟩, after)
    | _ => none

/-- At most `fuel` attributes, and whether they are all that the text holds. -/
def listWith : Nat → List Char → List RawAttribute × Bool
  | 0, s => ([], (s.dropWhile isSpace).isEmpty)
  | fuel + 1, s =>
    let s := s.dropWhile isSpace
    if s.isEmpty then ([], true)
    else match read? s with
      | none => ([], false)
      | some (a, rest) =>
        let (attributes, complete) := listWith fuel rest
        (a :: attributes, complete)

/-- The attributes up to the first that is malformed, and whether there is none such. -/
def list (s : List Char) : List RawAttribute × Bool :=
  listWith s.length s

end RawAttribute

/-- A tag as written. -/
structure RawTag where
  name : List Char
  attributes : List RawAttribute
  /-- Whether nothing malformed follows the attributes. -/
  complete : Bool
  deriving DecidableEq

/-- The parts of a tag, given its inside without a final slash. -/
def RawTag.ofBody (body : List Char) : RawTag :=
  let (attributes, complete) :=
    RawAttribute.list (body.dropWhile fun c => !isSpace c)
  ⟨body.takeWhile fun c => !isSpace c, attributes, complete⟩

end Gatehouse.Xml
