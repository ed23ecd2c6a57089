import Gatehouse.Text.Split

/-! # XML markup

The pieces that the text of a document falls into: runs of character data and the marked-up pieces
between angle brackets. Each piece keeps its characters, so that the pieces of a text, written one
after the other, give the text back. Names and nesting are not looked at here.
-/

namespace Gatehouse.Xml

open Gatehouse.Text

def isSpace (c : Char) : Bool :=
  c = ' ' || c = '\t' || c = '\n' || c = '\r'

inductive Markup where
  /-- Characters outside markup, with no opening angle bracket. -/
  | text (raw : List Char)
  /-- The inside of a start tag, or of the tag of an empty element with its final slash. -/
  | startTag (body : List Char)
  /-- The inside of an end tag, after the slash. -/
  | endTag (body : List Char)
  | comment (body : List Char)
  | cdata (body : List Char)
  /-- A processing instruction or an XML declaration. -/
  | instruction (body : List Char)
  /-- A document type declaration with its keyword. -/
  | doctype (body : List Char)
  deriving DecidableEq

namespace Markup

/-- The characters of a piece. -/
def render : Markup → List Char
  | text raw => raw
  | startTag body => '<' :: body ++ ['>']
  | endTag body => '<' :: '/' :: body ++ ['>']
  | comment body => ['<', '!', '-', '-'] ++ body ++ ['-', '-', '>']
  | cdata body => ['<', '!', '[', 'C', 'D', 'A', 'T', 'A', '['] ++ body ++ [']', ']', '>']
  | instruction body => ['<', '?'] ++ body ++ ['?', '>']
  | doctype body => ['<', '!'] ++ body ++ ['>']

/-- The inside of a tag: what stands before the first closing angle bracket outside quotes. -/
def splitTag? : Option Char → List Char → Option (List Char × List Char)
  | _, [] => none
  | none, c :: rest =>
    if c = '>' then some ([], rest)
    else
      let quote := if c = '"' ∨ c = '\'' then some c else none
      (splitTag? quote rest).map fun (body, after) => (c :: body, after)
  | some quote, c :: rest =>
    let quote := if c = quote then none else some quote
    (splitTag? quote rest).map fun (body, after) => (c :: body, after)

/-- The inside of a declaration: what stands before the closing angle bracket that matches none of
the opening ones before it, of which `depth` are still open. -/
def splitDeclaration? : Nat → List Char → Option (List Char × List Char)
  | _, [] => none
  | depth, c :: rest =>
    let more (depth : Nat) :=
      (splitDeclaration? depth rest).map fun (body, after) => (c :: body, after)
    if c = '<' then more (depth + 1)
    else if c = '>' then
      match depth with
      | 0 => some ([], rest)
      | depth + 1 => more depth
    else more depth

/-- Whether the inside of a declaration is that of a document type with a name. -/
def isDoctype (body : List Char) : Bool :=
  (body.take 7).map Char.toUpper = ['D', 'O', 'C', 'T', 'Y', 'P', 'E'] &&
    (body.drop 7).any fun c => !isSpace c

/-- The first piece of a text that is not empty, and the rest of it. -/
def next? : List Char → Option (Markup × List Char)
  | '<' :: '!' :: '-' :: '-' :: rest =>
    (splitAt? ['-', '-', '>'] rest).map fun (body, after) => (comment body, after)
  | '<' :: '!' :: '[' :: 'C' :: 'D' :: 'A' :: 'T' :: 'A' :: '[' :: rest =>
    (splitAt? [']', ']', '>'] rest).map fun (body, after) => (cdata body, after)
  | '<' :: '!' :: rest =>
    ((splitDeclaration? 0 rest).filter fun p => isDoctype p.1).map fun (body, after) =>
      (doctype body, after)
  | '<' :: '?' :: '>' :: _ => none
  | '<' :: '?' :: rest =>
    (splitAt? ['?', '>'] rest).map fun (body, after) => (instruction body, after)
  | '<' :: '/' :: rest =>
    (splitTag? none rest).map fun (body, after) => (endTag body, after)
  | '<' :: rest =>
    (splitTag? none rest).map fun (body, after) => (startTag body, after)
  | s => some (text (s.takeWhile fun c => c ≠ '<'), s.dropWhile fun c => c ≠ '<')

/-- At most `fuel` pieces of a text, and whether they are all of it. -/
def scanWith : Nat → List Char → List Markup × Bool
  | _, [] => ([], true)
  | 0, _ => ([], false)
  | fuel + 1, s =>
    match next? s with
    | none => ([], false)
    | some (piece, rest) =>
      let (pieces, complete) := scanWith fuel rest
      (piece :: pieces, complete)

/-- The pieces of a text up to its end or to the first place that is no markup, and whether the
end was reached. -/
def scan (s : List Char) : List Markup × Bool :=
  scanWith s.length s

end Markup

end Gatehouse.Xml
