import ResultFlow.Http.Exchange

/-!
# Redirection

A response may refer to another address, and the request is sent there instead, a limited number of
times. What a response refers to is left open in `Redirects`; `Redirects.usual` is the way of the web:
a request that posts becomes one that gets, and headers with credentials stay with their host.
-/

namespace ResultFlow.Http

/-- How responses refer to other addresses: how many are followed, and the request that a request
becomes by its response, if that refers to another address. -/
structure Redirects where
  limit : Nat
  next? : Request → Response → Option Request

namespace Transport

variable {τ : Type}

/-- Sends a request to its address, if that has a scheme of this protocol; and what comes of the
request that the response leads to, if it refers to another address. -/
def hop (t : Transport τ) (rd : Redirects) (r : Request) (s : τ) (more : Request → τ → Answer × τ) :
    Answer × τ :=
  if r.url.scheme = "http" ∨ r.url.scheme = "https" then
    match t.send r s with
    | (.error f, s) => (.error f, s)
    | (.ok response, s) =>
      match rd.next? r response with
      | none => (.ok response, s)
      | some next => more next s
  else (.error (.scheme r.url), s)

/-- Sends a request to its address, and then to at most so many others. -/
def follow (t : Transport τ) (rd : Redirects) : Nat → Request → τ → Answer × τ
  | 0, r, s => t.hop rd r s fun _ s => (.error (.redirected r.url), s)
  | left + 1, r, s => t.hop rd r s (t.follow rd left)

/-- The transport that follows responses to other addresses. -/
def following (t : Transport τ) (rd : Redirects) : Transport τ where
  send := t.follow rd rd.limit

end Transport

/-! ## The way of the web -/

namespace Request

/-- The names of the headers that describe a body. -/
def bodyNames : List String :=
  ["content-type", "content-length", "content-encoding", "transfer-encoding"]

/-- The names of the headers that are kept from other hosts. -/
def secretNames : List String :=
  ["authorization", "cookie", "cookie2", "proxy-authorization", "www-authenticate"]

/-- The request without the headers of some names. -/
def without (r : Request) (names : List String) : Request :=
  { r with headers := r.headers.filter fun h => !names.contains h.1 }

/-- The request without a body. -/
def emptied (r : Request) : Request := { r.without bodyNames with body := none }

/-- The request in the form in which it is made again for a status that refers to another address. -/
def again? (r : Request) (status : Nat) : Option Request :=
  if status = 301 ∨ status = 302 then
    some (if r.method = "POST" then { r.emptied with method := "GET" } else r)
  else if status = 303 then
    some (if r.method = "HEAD" then r.emptied else { r.emptied with method := "GET" })
  else if status = 307 ∨ status = 308 then some r
  else none

/-- The request without its secrets, if an address has another host. -/
def keptFor (r : Request) (url : Url) : Request :=
  if r.url.site = url.site then r else r.without secretNames

/-- The request with the text of the address that referred to it. -/
def referredBy (r : Request) (address : String) : Request :=
  let rest := r.without ["referer"]
  { rest with headers := rest.headers ++ [("referer", address)] }

/-- The request with another address. -/
def addressed (r : Request) (url : Url) : Request := { r with url }

/-- The request at another address, which is told of the address before unless that one is the more
private. -/
def movedTo (r : Request) (url : Url) : Request :=
  let kept := r.keptFor url
  let told := if r.url.scheme = "https" ∧ url.scheme = "http" then kept
    else kept.referredBy { r.url with fragment := none }.text
  told.addressed url

end Request

/-- Ten responses are followed to the places that they name. -/
def Redirects.usual : Redirects where
  limit := 10
  next? r response := do
    let form ← r.again? response.status
    let reference ← (valuesOf response.headers "location").head?
    let url ← r.url.join? reference
    return form.movedTo { url with fragment := none }

end ResultFlow.Http
