import Gatehouse.Credential.Certificate
import Gatehouse.Data.Groups
import Gatehouse.Url.Basic
import Gatehouse.Url.Form

/-! # Requests

The HTTP request that a message arrived on. Its parameters come from the query of its URL and from
form bodies; the names of its headers are the same in either case of their ASCII letters.
-/

namespace Gatehouse

structure Request where
  method : String
  url : Url
  headers : Table String String
  parameters : Groups String String
  /-- The certificates that the client presented, its own one first. -/
  clientCertificates : List Certificate
  remoteAddress : Option String

namespace Request

/-- A request without headers, bodies and certificates. -/
def ofParsed (method : String) (u : Url) : Request where
  method := method.toUpper
  url := u
  headers := .empty
  parameters := Groups.empty.addAll (Form.pairs (u.query.getD ""))
  clientCertificates := []
  remoteAddress := none

/-- A request on a URL, which a reader of URLs takes or refuses. -/
def ofUrl (method url : String) (read? : String → Option Url := Url.read?) :
    Except Error Request :=
  match read? url with
  | none => .error (.configuration (.invalidUrl url))
  | some u => .ok (ofParsed method u)

/-- Adds the parameters of a form body. -/
def withBody (r : Request) (body : String) : Request :=
  { r with parameters := r.parameters.addAll (Form.pairs body) }

/-- Sets a header, in place of one that had the same name. -/
def withHeader (r : Request) (name value : String) : Request :=
  { r with headers := r.headers.insert name.toLower value }

/-- Adds a certificate at the end of the chain that the client presented. -/
def withCertificate (r : Request) (c : Certificate) : Request :=
  { r with clientCertificates := r.clientCertificates ++ [c] }

def withRemoteAddress (r : Request) (address : String) : Request :=
  { r with remoteAddress := some address }

def values (r : Request) (name : String) : List String :=
  r.parameters.get name

def value? (r : Request) (name : String) : Option String :=
  (r.values name).head?

def header? (r : Request) (name : String) : Option String :=
  r.headers.get? name.toLower

def isSecure (r : Request) : Bool :=
  r.url.scheme = "https"

end Request

end Gatehouse
