import ResultFlow.Page.Service
import ResultFlow.Settings

/-!
# Calls for pages

Pages of one query are asked for one call at a time. A call starts on its own: at once, while it is
waited for, or too late. It is waited for until its page arrives, it fails, a limit passes, or the
caller is interrupted; an interruption goes before a page that has arrived, and a call that is given
up before it starts never does. `Calls` keeps the requests that reached the service, in order, beside
the service's state.
-/

namespace ResultFlow

/-- When a call starts. -/
inductive Start
  /-- As soon as it is made. -/
  | atOnce
  /-- When it is waited for. -/
  | awaited
  /-- Not before the limit passes. -/
  | late
  deriving DecidableEq

/-- The calls made for the pages of one query. -/
structure Calls (σ : Type) where
  query : String
  service : Service σ
  state : σ
  /-- For the next calls in turn, when they start. Those after the list start when they are waited
  for. -/
  starts : List Start := []
  /-- The requests that reached the service. -/
  sent : List PageRequest := []
  /-- Whether the caller was told to stop waiting. -/
  interrupted : Bool := false
  events : List Log.Event := []

/-- A call that was made and not yet waited for. -/
structure Call where
  request : PageRequest
  /-- How it ends, unless it has yet to start. One that starts too late is not heard of. -/
  outcome : Option CallOutcome := none
  deriving DecidableEq, Inhabited

/-- A call that ends only when it is given up. -/
def Call.hangs (c : Call) : Bool := c.outcome == some .silence

/-- The text of a breakdown. -/
def breakdownText : Option String → String
  | some message => "task N panicked with message " ++ Text.quoted message
  | none => "task N panicked"

namespace Calls

variable {σ : Type}

/-- What a report says about calls of a service of that name. -/
def text (c : Calls σ) (service : String) : String :=
  "PageFetcher \x7b client: " ++ service ++ ", query_execution_id: " ++ Text.quoted c.query ++
    " \x7d"

/-- When the next call starts. -/
def start (c : Calls σ) : Start := c.starts.headD .awaited

def log (c : Calls σ) (e : Log.Event) : Calls σ := { c with events := c.events ++ [e] }

/-- The caller is told to stop waiting, for good. -/
def interrupt (c : Calls σ) : Calls σ := { c with interrupted := true }

/-- The request reaches the service. -/
def send (c : Calls σ) (r : PageRequest) : CallOutcome × Calls σ :=
  let a := c.service.answer r c.state
  (a.outcome,
    { c with
      state := a.next
      sent := c.sent ++ [r]
      interrupted := c.interrupted || a.interrupts
      events := c.events ++ a.events })

/-- The request for a page, once its number of rows is accepted. -/
def prepare (c : Calls σ) (token : Option String) (maxRows : Nat) : Except Error PageRequest :=
  (checkFetchSize maxRows).map fun n => ⟨c.query, token, n⟩

/-- Makes a call for the page of a token. -/
def request (c : Calls σ) (token : Option String) (maxRows : Nat) :
    Except Error Call × Calls σ :=
  match c.prepare token maxRows with
  | .error e => (.error e, c)
  | .ok r =>
    let d := { c with starts := c.starts.tail }.log (.pageRequested c.query r.token r.maxRows)
    match c.start with
    | .atOnce =>
      let (outcome, d) := d.send r
      (.ok ⟨r, some outcome⟩, d)
    | .awaited => (.ok ⟨r, none⟩, d)
    | .late => (.ok ⟨r, some .silence⟩, d)

/-- How a call ends. One that has not started does so now. -/
def finish (c : Calls σ) (call : Call) : CallOutcome × Calls σ :=
  match call.outcome with
  | some outcome => (outcome, c)
  | none => c.send call.request

/-- A call given up because the caller is interrupted. -/
def giveUp (c : Calls σ) : Except Error Page × Calls σ :=
  (.error (.pageInterrupted c.query), c.log (.pageInterrupted c.query))

/-- What becomes of a call that ended, or did not within the limit. -/
def settle (c : Calls σ) (limit : Duration) : CallOutcome → Except Error Page × Calls σ
  | .page p => (.ok p, c)
  | .failure e => (.error (.pageFailed c.query e), c.log (.pageFailed c.query e))
  | .breakdown m =>
    let e := Error.foreign (breakdownText m)
    (.error (.pageFailed c.query e), c.log (.pageLost c.query e))
  | .silence => (.error (.pageTimedOut c.query limit), c.log (.pageTimedOut c.query limit))

/-- Waits for a call. Only a caller who is `watching` is interrupted, before the call or during it. -/
def wait (c : Calls σ) (call : Call) (limit : Duration) (watching : Bool) :
    Except Error Page × Calls σ :=
  if watching && c.interrupted then c.giveUp
  else
    let (outcome, c) := c.finish call
    if watching && c.interrupted then c.giveUp else c.settle limit outcome

/-- Asks for a page and waits for it. -/
def fetch (c : Calls σ) (token : Option String) (maxRows : Nat) (limit : Duration)
    (watching : Bool) : Except Error Page × Calls σ :=
  match c.request token maxRows with
  | (.error e, c) => (.error e, c)
  | (.ok call, c) => c.wait call limit watching

end Calls

end ResultFlow
