import Gatehouse.Bytes.Hex
import Gatehouse.Bytes.Utf16
import Gatehouse.Json.Basic

/-! # Reading JSON

The grammar of RFC 8259 without extensions: four characters of white space, no control characters
in strings. An escape for a surrogate without its partner is well formed, but a value with it is
`Json.unpaired` and has no text. The reader of values takes a bound on the depth of its own calls;
`Json.read?` gives it more than any text of that length can need.
-/

namespace Gatehouse.Json

def isSpace (c : Char) : Bool :=
  c = ' ' || c = '\n' || c = '\t' || c = '\r'

def skipSpace (s : List Char) : List Char :=
  s.dropWhile isSpace

/-- The number that four hexadecimal digits denote. -/
def codeUnit? (a b c d : Char) : Option Nat := do
  return ((← Hex.digit? a) * 16 + (← Hex.digit? b)) * 256 +
    ((← Hex.digit? c) * 16 + (← Hex.digit? d))

/-- The character that a letter after a backslash stands for. -/
def escaped? (c : Char) : Option Char :=
  match c with
  | '"' => some '"'
  | '\\' => some '\\'
  | '/' => some '/'
  | 'b' => some '\x08'
  | 'f' => some '\x0c'
  | 'n' => some '\n'
  | 'r' => some '\r'
  | 't' => some '\t'
  | _ => none

/-- Reads a string whose opening quote has been read, as code points. An escape may give half of a
surrogate pair. -/
def readString : List Char → Option (List Nat × List Char)
  | [] => none
  | '"' :: rest => some ([], rest)
  | '\\' :: 'u' :: a :: b :: c :: d :: rest => do
    let unit ← codeUnit? a b c d
    let (units, after) ← readString rest
    return (unit :: units, after)
  | '\\' :: c :: rest => do
    let c ← escaped? c
    let (units, after) ← readString rest
    return (c.toNat :: units, after)
  | c :: rest =>
    if c.toNat < 0x20 then none
    else do
      let (units, after) ← readString rest
      return (c.toNat :: units, after)

/-- The string that code points make, if every surrogate has its partner. -/
def ofUnits (units : List Nat) : Json :=
  match Utf16.ofUnits? units with
  | some cs => .string (String.ofList cs)
  | none => .unpaired

/-- The object of members read, if every name is text. -/
def ofMembers (members : List (List Nat × Json)) : Json :=
  match members.mapM fun m => (Utf16.ofUnits? m.1).map fun name => (String.ofList name, m.2) with
  | some members => .object members
  | none => .unpaired

def readDigits (s : List Char) : Option (List Char × List Char) :=
  let ds := s.takeWhile Char.isDigit
  if ds.isEmpty then none else some (ds, s.dropWhile Char.isDigit)

def readFraction (s : List Char) : Option (List Char × List Char) :=
  match s with
  | '.' :: rest => (readDigits rest).map fun (ds, rest) => ('.' :: ds, rest)
  | s => some ([], s)

def readExponent (s : List Char) : Option (List Char × List Char) :=
  match s with
  | [] => some ([], s)
  | e :: rest =>
    if e = 'e' ∨ e = 'E' then
      match rest with
      | [] => none
      | sign :: tail =>
        if sign = '+' ∨ sign = '-' then
          (readDigits tail).map fun (ds, rest) => (e :: sign :: ds, rest)
        else (readDigits rest).map fun (ds, rest) => (e :: ds, rest)
    else some ([], s)

/-- The whole part of a number: a lone zero, or digits that begin with another one. -/
def readWhole (s : List Char) : Option (List Char × List Char) :=
  match s with
  | '0' :: rest => some (['0'], rest)
  | s => readDigits s

def readNumber (s : List Char) : Option (List Char × List Char) := do
  let (sign, s) := match s with
    | '-' :: rest => (['-'], rest)
    | s => ([], s)
  let (whole, s) ← readWhole s
  let (fraction, s) ← readFraction s
  let (exponent, s) ← readExponent s
  return (sign ++ whole ++ fraction ++ exponent, s)

mutual
def readValue : Nat → List Char → Option (Json × List Char)
  | 0, _ => none
  | fuel + 1, s =>
    match skipSpace s with
    | 'n' :: 'u' :: 'l' :: 'l' :: rest => some (.null, rest)
    | 't' :: 'r' :: 'u' :: 'e' :: rest => some (.bool true, rest)
    | 'f' :: 'a' :: 'l' :: 's' :: 'e' :: rest => some (.bool false, rest)
    | '"' :: rest => (readString rest).map fun (units, rest) => (ofUnits units, rest)
    | '[' :: rest =>
      match skipSpace rest with
      | ']' :: rest => some (.array [], rest)
      | rest => (readItems fuel rest).map fun (items, rest) => (.array items, rest)
    | '{' :: rest =>
      match skipSpace rest with
      | '}' :: rest => some (.object [], rest)
      | rest => (readMembers fuel rest).map fun (members, rest) => (ofMembers members, rest)
    | s => (readNumber s).map fun (cs, rest) => (.number (String.ofList cs), rest)

/-- The items of an array up to its closing bracket. -/
def readItems : Nat → List Char → Option (List Json × List Char)
  | 0, _ => none
  | fuel + 1, s => do
    let (item, s) ← readValue fuel s
    match skipSpace s with
    | ',' :: rest =>
      let (items, rest) ← readItems fuel rest
      return (item :: items, rest)
    | ']' :: rest => return ([item], rest)
    | _ => none

/-- The members of an object up to its closing brace. -/
def readMembers : Nat → List Char → Option (List (List Nat × Json) × List Char)
  | 0, _ => none
  | fuel + 1, s =>
    match skipSpace s with
    | '"' :: rest => do
      let (name, s) ← readString rest
      match skipSpace s with
      | ':' :: rest =>
        let (value, s) ← readValue fuel rest
        match skipSpace s with
        | ',' :: rest =>
          let (members, rest) ← readMembers fuel rest
          return ((name, value) :: members, rest)
        | '}' :: rest => return ([(name, value)], rest)
        | _ => none
      | _ => none
    | _ => none
end

/-- The value that a whole text denotes. -/
def read? (s : String) : Option Json := do
  let cs := s.toList
  let (value, rest) ← readValue (cs.length + 1) cs
  if (skipSpace rest).isEmpty then return value else none

end Gatehouse.Json
