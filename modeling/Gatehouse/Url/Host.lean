import Gatehouse.Url.Address
import Gatehouse.Url.Percent

/-! # Hosts

The host of a URL. Schemes such as `https` have hosts in the sense of the internet: addresses, and
names, which are put in lower case and in ASCII. The tables by which an internationalised name is
put in ASCII are not part of this library, so that conversion is given from outside. The hosts of
all other schemes are kept as they are written.
-/

namespace Gatehouse.Url

open Gatehouse.Text

inductive Host where
  | name (text : String)
  | ipv4 (address : Nat)
  | ipv6 (pieces : List Nat)
  deriving DecidableEq, Repr

namespace Host

def text : Host → String
  | name text => text
  | ipv4 address => String.ofList (ipv4Text address)
  | ipv6 pieces => String.ofList ('[' :: ipv6Text pieces ++ [']'])

def isEmpty (h : Host) : Bool :=
  h = .name ""

/-- The characters that no internet host may contain. -/
def isForbidden (c : Char) : Bool :=
  Percent.inClass [' ', '%', '#', '/', ':', '<', '>', '?', '@', '[', '\\', ']', '^', '|'] c

/-- The characters that the host of another scheme may not contain. -/
def isForbiddenVerbatim (c : Char) : Bool :=
  [Char.ofNat 0, '\t', '\n', '\r', ' ', '#', '/', ':', '<', '>', '?', '@', '[', '\\', ']', '^',
    '|'].contains c

def bracketed? (s : List Char) : Option Host :=
  if s.getLast? = some ']' then (ipv6? s.tail.dropLast).map .ipv6 else none

/-- Puts an internationalised name in ASCII, or refuses it. A name that has been put in ASCII before
is checked. -/
abbrev Conversion := List Char → Option (List Char)

/-- Knows no internationalised names. -/
def noConversion : Conversion := fun _ => none

/-- Whether a name in lower case needs no conversion: it is ASCII, and none of its labels is marked
as one that has been converted. -/
def isPlain (name : List Char) : Bool :=
  name.all (·.toNat < 128) && (pieces '.' name).all fun label => !"xn--".toList.isPrefixOf label

/-- The host of a scheme such as `https`. -/
def internet? (convert : Conversion) (s : List Char) : Option Host :=
  if s.head? = some '[' then bracketed? s
  else do
    let text ← (Percent.decode (Bytes.ofString (String.ofList s))).toString?
    let lowered := text.toList.map Char.toLower
    let name ← if isPlain lowered then some lowered else convert text.toList
    if name.isEmpty || name.any isForbidden then none
    else if endsInNumber name then (ipv4? name).map .ipv4
    else return .name (String.ofList name)

/-- The host of any other scheme. -/
def verbatim? (s : List Char) : Option Host :=
  if s.head? = some '[' then bracketed? s
  else if s.any isForbiddenVerbatim then none
  else some (.name (String.ofList (Percent.encode Percent.isControl s)))

end Host

end Gatehouse.Url
