import Gatehouse.Text.Split
import Gatehouse.Url.Percent

/-! # Paths

The path of a URL as segments, with dot segments carried out, or as a text without structure. A
double dot removes the segment before it, unless that is a drive letter.
-/

namespace Gatehouse.Url

inductive Path where
  /-- The path of a URL such as `urn:x`, which is no hierarchy. -/
  | plain (text : String)
  | segments (names : List String)
  deriving DecidableEq, Repr

/-- The schemes whose URLs have a fixed form. -/
inductive SchemeKind where
  | file
  | special
  | other
  deriving DecidableEq, Repr

/-- Splits a path at its slashes; in a URL of fixed form a backslash is one too. -/
def splitPath (kind : SchemeKind) : List Char → List (List Char)
  | [] => [[]]
  | c :: rest =>
    if c = '/' ∨ (c = '\\' ∧ kind ≠ .other) then [] :: splitPath kind rest
    else match splitPath kind rest with
      | [] => [[c]]
      | segment :: more => (c :: segment) :: more

/-- A segment with the dots that are written as `%2e` in plain form. -/
def plainDots : List Char → List Char
  | '%' :: '2' :: 'e' :: rest => '.' :: plainDots rest
  | '%' :: '2' :: 'E' :: rest => '.' :: plainDots rest
  | c :: rest => c :: plainDots rest
  | [] => []

/-- Whether a character is one of those that a URL may be broken up with. -/
def isBreak (c : Char) : Bool :=
  c = '\t' || c = '\n' || c = '\r'

def unbroken (s : List Char) : List Char :=
  s.filter fun c => !isBreak c

/-- Whether a segment is a drive letter: a letter and a colon or a bar. -/
def isDriveLetter : List Char → Bool
  | [letter, mark] => letter.isAlpha && (mark = ':' || mark = '|')
  | _ => false

/-- Whether a segment is a drive letter, or one that goes on with a backslash. -/
def opensWithDrive : List Char → Bool
  | letter :: mark :: '\\' :: _ => isDriveLetter [letter, mark]
  | segment => isDriveLetter segment

/-- A drive letter with a colon and the rest of its segment, if a break stands between them. -/
def cutDrive? (segment : List Char) : Option (List Char × List Char) := do
  let (before, after) ← Text.cut? ':' segment
  let drive := unbroken before ++ [':']
  let rest := unbroken after
  if isDriveLetter drive && after.head?.any isBreak && !rest.isEmpty then return (drive, rest)
  else none

/-- A path of which some segments have been read. -/
structure OpenPath where
  /-- The segments, the last one first. -/
  segments : List (List Char) := []
  /-- Whether the path leads off with a drive, so that its URL has no host. -/
  namesDrive : Bool := false

namespace OpenPath

/-- The segments without the last one, which stays if it is a drive. -/
def parent (p : OpenPath) : OpenPath :=
  match p.segments with
  | [] => p
  | last :: before => if opensWithDrive last then p else { p with segments := before }

def add (p : OpenPath) (segment : List Char) : OpenPath :=
  { p with segments := Percent.encode Percent.inPath segment :: p.segments }

/-- Carries out one segment. A drive letter that opens the path of a file URL gets a colon; if it
has one and a break follows, the segment ends there and its rest is the next one. -/
def read (kind : SchemeKind) (isLast : Bool) (p : OpenPath) (segment : List Char) : OpenPath :=
  let opens := kind = .file && p.segments.isEmpty
  let text := unbroken segment
  let dots := plainDots text
  match if opens then cutDrive? segment else none with
  | some (drive, rest) => (p.add drive).add rest
  | none =>
    if dots = ['.', '.'] then if isLast then p.parent.add [] else p.parent
    else if dots = ['.'] then if isLast then p.add [] else p
    else if opens && isDriveLetter text then
      { p.add (text.take 1 ++ [':']) with namesDrive := true }
    else p.add text

def readAll (kind : SchemeKind) (p : OpenPath) : List (List Char) → OpenPath
  | [] => p
  | [segment] => p.read kind true segment
  | segment :: rest => readAll kind (p.read kind false segment) rest

/-- Drops empty segments from the start of a path that has more. -/
def dropEmpty : List (List Char) → List (List Char)
  | [] :: segment :: rest => dropEmpty (segment :: rest)
  | segments => segments

/-- The path, which in a file URL does not begin with empty segments. -/
def close (kind : SchemeKind) (p : OpenPath) : Path :=
  let segments := p.segments.reverse
  .segments ((if kind = .file then dropEmpty segments else segments).map String.ofList)

end OpenPath

/-- Reads what stands after the first slash of a path. -/
def readSegments (kind : SchemeKind) (s : List Char) : OpenPath :=
  OpenPath.readAll kind {} (splitPath kind s)

def Path.text : Path → List Char
  | plain text => text.toList
  | segments names => names.flatMap fun name => '/' :: name.toList

end Gatehouse.Url
