import Gatehouse.Text.Blank
import Gatehouse.Url.Host
import Gatehouse.Url.Path

/-! # URLs

Reading absolute URLs by the rules of the URL standard and writing them in their normal form. How an
internationalised host is put in ASCII is left to a conversion that is given.
-/

namespace Gatehouse

open Url Text

structure Url where
  scheme : String
  username : String
  password : String
  host : Option Host
  port : Option Nat
  path : Path
  query : Option String
  fragment : Option String
  deriving DecidableEq, Repr

namespace Url

def SchemeKind.ofScheme (scheme : String) : SchemeKind :=
  if scheme = "file" then .file
  else if ["http", "https", "ws", "wss", "ftp"].contains scheme then .special
  else .other

/-- The port that a scheme has unless the URL names another. -/
def defaultPort? (scheme : String) : Option Nat :=
  if scheme = "http" ∨ scheme = "ws" then some 80
  else if scheme = "https" ∨ scheme = "wss" then some 443
  else if scheme = "ftp" then some 21
  else none

/-- A scheme and what follows its colon. -/
def readScheme? (s : List Char) : Option (String × List Char) := do
  let (name, rest) ← cut? ':' s
  let name := unbroken name
  let first ← name.head?
  if first.isAlpha && name.all (fun c => c.isAlphanum || c = '+' || c = '-' || c = '.') then
    return (String.ofList (name.map Char.toLower), rest)
  else none

/-- Whether a character ends the authority. -/
def endsAuthority (kind : SchemeKind) (c : Char) : Bool :=
  c = '/' || c = '?' || c = '#' || (c = '\\' && kind ≠ .other)

/-- What stands before the last at sign, if there is one, and what stands after it. -/
def splitUserInfo (s : List Char) : Option (List Char) × List Char :=
  match cut? '@' s.reverse with
  | some (after, before) => (some before.reverse, after.reverse)
  | none => (none, s)

def credentials (userInfo : List Char) : String × String :=
  let (name, password) := (cut? ':' userInfo).getD (userInfo, [])
  (String.ofList (Percent.encode Percent.inUserInfo name),
    String.ofList (Percent.encode Percent.inUserInfo password))

/-- The host and what stands after it, from the colon before the port on. -/
def splitHost : Bool → List Char → List Char × List Char
  | _, [] => ([], [])
  | inBrackets, c :: rest =>
    if c = ':' ∧ inBrackets = false then ([], c :: rest)
    else
      let inBrackets := if c = '[' then true else if c = ']' then false else inBrackets
      let (host, after) := splitHost inBrackets rest
      (c :: host, after)

/-- The port, if one is named, and what follows it. -/
def readPort? (s : List Char) : Option (Option Nat × List Char) :=
  match s with
  | ':' :: rest =>
    let ds := rest.takeWhile Char.isDigit
    let after := rest.dropWhile Char.isDigit
    if after.isEmpty || after.head? = some '\\' then
      if ds.isEmpty then some (none, after)
      else ((numeral? ds).filter (· < 65536)).map fun n => (some n, after)
    else none
  | s => some (none, s)

/-- The query and the fragment. -/
def readTail (kind : SchemeKind) (s : List Char) : Option String × Option String :=
  let fragment (s : List Char) := some (String.ofList (Percent.encode Percent.inFragment s))
  match s with
  | '?' :: rest =>
    let query := rest.takeWhile fun c => c ≠ '#'
    let queryText := some (String.ofList (Percent.encode (Percent.inQuery (kind ≠ .other)) query))
    match rest.dropWhile fun c => c ≠ '#' with
    | _ :: rest => (queryText, fragment rest)
    | [] => (queryText, none)
  | '#' :: rest => (none, fragment rest)
  | _ => (none, none)

def isTailStart (c : Char) : Bool :=
  c = '?' || c = '#'

/-- The path of a URL with an authority, from its first slash on. The URL is none of a file. -/
def readPath (kind : SchemeKind) (s : List Char) : Path :=
  match s with
  | [] => .segments (if kind = .other then [] else [""])
  | c :: rest =>
    let s := if c = '/' ∨ (c = '\\' ∧ kind ≠ .other) then rest else c :: rest
    (readSegments kind s).close kind

/-- Reads what follows the two slashes before an authority. -/
def readAuthority? (convert : Host.Conversion) (scheme : String) (kind : SchemeKind)
    (s : List Char) : Option Url := do
  let authority := s.takeWhile fun c => !endsAuthority kind c
  let after := s.dropWhile fun c => !endsAuthority kind c
  let (userInfo, hostPort) := splitUserInfo authority
  if userInfo = some [] ∧ hostPort.isEmpty ∧ !after.isEmpty then none
  let (username, password) := credentials (userInfo.getD [])
  let (hostText, portText) := splitHost false hostPort
  let host ←
    if kind = .other then Host.verbatim? hostText else Host.internet? convert hostText
  if host.isEmpty ∧ (!portText.isEmpty ∨ username ≠ "" ∨ password ≠ "") then none
  let (port, left) ← readPort? portText
  let rest := left ++ after
  let (query, fragment) := readTail kind (rest.dropWhile fun c => !isTailStart c)
  return { scheme, username, password
           host := some host
           port := port.filter fun n => defaultPort? scheme ≠ some n
           path := readPath kind (rest.takeWhile fun c => !isTailStart c)
           query, fragment }

/-- A URL without an authority, whose path begins with a slash or has no structure. -/
def readPlain (scheme : String) (s : List Char) : Url :=
  let text := s.takeWhile fun c => !isTailStart c
  let (query, fragment) := readTail .other (s.dropWhile fun c => !isTailStart c)
  { scheme, username := "", password := "", host := none, port := none
    path := match text with
      | '/' :: rest => (readSegments .other rest).close .other
      | text => .plain (String.ofList (Percent.encode Percent.isControl text))
    query, fragment }

def isSlash (c : Char) : Bool :=
  c = '/' || c = '\\'

def afterSlash? (s : List Char) : Option (List Char) :=
  match s.dropWhile isBreak with
  | [] => none
  | c :: rest => if isSlash c then some rest else none

/-- The host of a file URL, and its path without a first slash. A drive letter is no host. Where
there is none, the slash after its place is the second one of the path. -/
def readFileHost? (convert : Host.Conversion) (s : List Char) : Option (Host × List Char) :=
  let inHost := fun c => !endsAuthority .file c
  let host := unbroken (s.takeWhile inHost)
  let rest := s.dropWhile inHost
  if isDriveLetter host then some (.name "", s)
  else if host.isEmpty then some (.name "", rest)
  else (Host.internet? convert host).map fun h =>
    if h = .name "localhost" then (.name "", rest) else (h, (afterSlash? rest).getD rest)

/-- Reads what follows the colon of a file URL, breaks included. A path that leads off with a drive
leaves no host. -/
def readFile? (convert : Host.Conversion) (s : List Char) : Option Url := do
  let (host, s) ← match afterSlash? s with
    | none => some (.name "", s)
    | some rest =>
      match afterSlash? rest with
      | none => some (.name "", rest)
      | some rest => readFileHost? convert rest
  let (query, fragment) := readTail .file (unbroken (s.dropWhile fun c => !isTailStart c))
  let path := readSegments .file (s.takeWhile fun c => !isTailStart c)
  return { scheme := "file", username := "", password := ""
           host := some (if path.namesDrive then .name "" else host)
           port := none
           path := path.close .file
           query, fragment }

/-- Reads an absolute URL. Blanks and control characters around it are dropped. -/
def readWith? (convert : Host.Conversion) (s : String) : Option Url := do
  let (scheme, rest) ← readScheme? (strip (fun c => c.toNat ≤ 0x20) s.toList)
  match SchemeKind.ofScheme scheme, unbroken rest with
  | .file, _ => readFile? convert rest
  | .special, s => readAuthority? convert scheme .special (s.dropWhile isSlash)
  | .other, '/' :: '/' :: s => readAuthority? convert scheme .other s
  | .other, s => return readPlain scheme s

/-- Reads an absolute URL whose host needs no conversion. -/
def read? : String → Option Url :=
  readWith? Host.noConversion

/-- The authority with the slashes before it. Without one, a path that begins with an empty segment
is kept from being taken for one. -/
def authorityText (u : Url) : List Char :=
  match u.host with
  | some host =>
    let password := if u.password = "" then [] else ':' :: u.password.toList
    let userInfo := u.username.toList ++ password
    ['/', '/'] ++ (if userInfo.isEmpty then [] else userInfo ++ ['@']) ++ host.text.toList ++
      (u.port.map fun n => ':' :: digits n).getD []
  | none =>
    match u.path with
    | .segments ("" :: _ :: _) => ['/', '.']
    | _ => []

def text (u : Url) : String :=
  String.ofList (u.scheme.toList ++ ':' :: u.authorityText ++ u.path.text ++
    (u.query.map fun q => '?' :: q.toList).getD [] ++
    (u.fragment.map fun f => '#' :: f.toList).getD [])

end Url

end Gatehouse
