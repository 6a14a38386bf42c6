import ResultFlow.Http.Exchange
import ResultFlow.Page.Service
import ResultFlow.Page.Wire

/-!
# Pages over HTTP

A page of a query is asked for by a request with a JSON body and the token of the client. A refusal
in the words of the service takes the place of the status that came with it.
-/

namespace ResultFlow.Http

/-- Where and by which client pages are asked for, and how it is said why a text is no page. -/
structure QueryClient (τ : Type) where
  client : Client τ
  endpoint : String
  /-- The words of the parser for a text that it refuses. -/
  explain : String → String

namespace QueryClient

variable {τ : Type}

/-- The headers of a request for a page: the operation that is called, and the form of the body. -/
def headers : List (String × String) :=
  [("X-Amz-Target", "AmazonAthena.GetQueryResults"), ("content-type", "application/x-amz-json-1.1")]

/-- The request for a page. -/
def requestFor (q : QueryClient τ) (r : PageRequest) : Except Error Request :=
  match Request.build? "POST" q.endpoint headers (some r.text) with
  | .ok request => .ok request
  | .error text => .error (.service ("Failed to build request: " ++ text))

/-- The failure that the service reports in the body of an answer, if it does. -/
def refused : Error → Error
  | .http status body =>
    match Refusal.read? body with
    | some r => match r.message with
      | some message =>
        .service (r.kind ++ " (HTTP " ++ toString status ++ "): " ++ message)
      | none => .http status body
    | none => .http status body
  | e => e

/-- The page that a response holds. -/
def pageOf (q : QueryClient τ) (r : Response) : Except Error Page :=
  match r.text with
  | .error text => .error (.service ("Failed to read response: " ++ text))
  | .ok body => match Page.read? body with
    | some p => .ok p
    | none => .error (.service ("Failed to parse GetQueryResults response: " ++ q.explain body ++
        " - body: " ++ body))

/-- Asks for a page. -/
def fetch (q : QueryClient τ) (t : Transport τ) (r : PageRequest) : Work τ Page := do
  Work.report (.querySent r.query r.token r.maxRows)
  let request ← Work.ofExcept (q.requestFor r)
  let response ← (q.client.execute t request).mapError refused
  let page ← Work.ofExcept (q.pageOf response)
  Work.report (.queryAnswered r.query page.rows.length page.next.isSome)
  return page

/-- The service of pages over a transport. A panic breaks it down. -/
def service (q : QueryClient τ) (t : Transport τ) : Service τ where
  answer r s :=
    let d := (q.fetch t r).run s
    { outcome := match d.outcome with
        | .ok p => .page p
        | .error e => .failure e
        | .panic p => .breakdown (some p.message)
      events := d.events
      next := d.state }

end QueryClient

end ResultFlow.Http
