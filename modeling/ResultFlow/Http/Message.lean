import ResultFlow.Http.Charset
import ResultFlow.Http.User

/-!
# Messages

Requests and responses. A request is built only from an address and headers that can be sent, those
of an object from its location. The body of a response comes in pieces, with a declared length or
without, and may break off.
-/

namespace ResultFlow

/-- The place of an object. -/
structure ObjectLocation where
  url : String
  /-- Names and values, with no name twice. -/
  headers : List (String × String) := []

namespace ObjectLocation

/-- The location with a header, in place of one of the same name. -/
def withHeader (l : ObjectLocation) (name value : String) : ObjectLocation :=
  { l with headers := l.headers.filter (fun h => h.1 ≠ name) ++ [(name, value)] }

/-- The location with each of the headers in turn. -/
def withHeaders (l : ObjectLocation) (headers : List (String × String)) : ObjectLocation :=
  headers.foldl (fun l h => l.withHeader h.1 h.2) l

end ObjectLocation

namespace Http

/-- A name and a value. Names are in lower case. -/
abbrev Header := String × String

/-- Whether a text can be the value of a header: no control character but the tab. -/
def isHeaderValue (s : String) : Bool :=
  s.toList.all fun c => c = '\t' || (0x20 ≤ c.toNat && c.toNat ≠ 0x7F)

/-- Whether a text can be the name of a header. -/
def isHeaderName (s : String) : Bool := s ≠ "" && s.toList.all Charset.isTokenChar

/-- The headers of a name. -/
def valuesOf (headers : List Header) (name : String) : List String :=
  (headers.filter (·.1 = name)).map (·.2)

/-- The header of a name, unless there is one already. -/
def withDefault (headers : List Header) (h : Header) : List Header :=
  if headers.any (·.1 = h.1) then headers else headers ++ [h]

/-- What is sent. -/
structure Request where
  method : String
  url : Url
  headers : List Header := []
  body : Option String := none
  deriving DecidableEq, Inhabited

namespace Request

/-- Why a request cannot be built. -/
def builderError (url : Option Url) : String :=
  "builder error" ++ (match url with
    | none => ""
    | some u => " for url (" ++ u.text ++ ")")

/-- A request with headers that can be sent. -/
def withHeaders? (r : Request) (headers : List (String × String)) : Except String Request :=
  if headers.all fun h => isHeaderName h.1 && isHeaderValue h.2 then
    .ok { r with headers := r.headers ++ headers.map fun h => (Text.lower h.1, h.2) }
  else .error (builderError none)

/-- The headers that come with an address: those of the user whom it names. -/
def headersOfAddress (address : String) : List Header :=
  ((User.ofAddress? address).map User.header).toList

/-- A request to an address that has a host. -/
def build? (method url : String) (headers : List (String × String)) (body : Option String) :
    Except String Request :=
  match Url.read? url with
  | none => .error (builderError none)
  | some u =>
    if u.authority.isSome then
      withHeaders? { method, url := u, headers := headersOfAddress url, body } headers
    else .error (builderError (some u))

end Request

/-- The body of a response. -/
structure Body where
  /-- The bytes, in the pieces in which they arrive. -/
  pieces : List Bytes := []
  /-- The length in bytes, if it is declared. -/
  length : Option Nat := none
  /-- Whether all of it arrives. -/
  intact : Bool := true
  deriving DecidableEq, Inhabited

/-- Why a body that breaks off cannot be read. -/
def bodyError : String := "error decoding response body"

/-- What comes back. -/
structure Response where
  status : Nat
  headers : List Header := []
  body : Body := {}
  deriving DecidableEq, Inhabited

namespace Response

def isSuccess (r : Response) : Bool := 200 ≤ r.status && r.status < 300

/-- The content type, if it is written in printable ASCII. -/
def contentType (r : Response) : Option String :=
  (valuesOf r.headers "content-type").head?.filter fun s =>
    s.toList.all fun c => c = '\t' || (0x20 ≤ c.toNat && c.toNat < 0x7F)

/-- The body as a text, if all of it arrives. -/
def text (r : Response) : Except String String :=
  if r.body.intact then .ok ((Charset.ofContentType r.contentType).decode r.body.pieces.flatten)
  else .error bodyError

end Response

/-- Why no response comes back. -/
inductive Fault
  /-- No connection could be made. -/
  | refused
  /-- No answer came in time. -/
  | timedOut
  /-- The connection ended before an answer. -/
  | lost
  /-- The scheme of an address is not one of this protocol. -/
  | scheme (url : Url)
  /-- The response from an address refers to yet another one, after too many of them. -/
  | redirected (url : Url)
  deriving DecidableEq

namespace Fault

/-- The wording of a fault of a request to an address. -/
def text : Fault → Url → String
  | refused, url | timedOut, url | lost, url => "error sending request for url (" ++ url.text ++ ")"
  | scheme u, _ => Request.builderError (some u)
  | redirected u, _ => "error following redirect for url (" ++ u.text ++ ")"

/-- Whether a repeated attempt may do better. -/
def isTransient (f : Fault) : Bool := f = refused || f = timedOut

end Fault

end Http

end ResultFlow
