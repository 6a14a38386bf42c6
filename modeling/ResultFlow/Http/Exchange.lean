import ResultFlow.Http.Message
import ResultFlow.Http.Work
import ResultFlow.Settings

/-!
# Exchanges

A client sends a request over a transport until an attempt succeeds, fails for good, or is the last
one allowed. Statuses that ask for patience, refused connections and answers that come too late are
tried again after a pause that doubles each time. The value of the authorization header comes from a
provider, which is asked at each attempt of a request that is to carry one. The numbers have a width:
attempts, retries and powers of two have 32 bits, and the seconds of a pause have 64.
-/

namespace ResultFlow

/-! ## Numbers with a width -/

/-- The greatest number of 32 bits. -/
def maxWord : Nat := 0xFFFFFFFF

/-- The sum of two numbers of 32 bits, if it has 32 bits. -/
def addWord? (a b : Nat) : Option Nat := if a + b ≤ maxWord then some (a + b) else none

/-- A power of two, or the greatest number of 32 bits where the power has more. -/
def powWord (k : Nat) : Nat := min (Nat.pow 2 k) maxWord

namespace Http

/-! ## Transports and providers -/

/-- How an attempt ended. -/
abbrev Answer := Except Fault Response

/-- The means by which requests get their answers, with states `τ`. -/
structure Transport (τ : Type) where
  send : Request → τ → Answer × τ

/-- What gives the values of authorization headers, with states `τ`. -/
structure Provider (τ : Type) where
  header : τ → Except Error String × τ

/-- The value of the authorization header of a token. -/
def bearer (token : String) : Except Error String :=
  if token = "" then .error .emptyToken else .ok ("Bearer " ++ token)

/-- What a report says of a token. -/
def tokenText : String := "BearerToken \x7b token: \"<redacted>\" \x7d"

/-- The provider that always gives the same token. -/
def Provider.bearer {τ : Type} (token : String) : Provider τ where
  header s := (Http.bearer token, s)

/-! ## Clients -/

/-- A client: its settings, the provider for the requests that carry a header of it, and the levels
at which reports are shown. -/
structure Client (τ : Type) where
  settings : HttpSettings
  provider : Provider τ
  shows : Log.Level → Bool := fun _ => true

namespace Client

variable {τ : Type}

/-- A client, if its user agent can be the value of a header. -/
def build? (settings : HttpSettings) (provider : Provider τ) (shows : Log.Level → Bool) :
    Except Error (Client τ) :=
  if isHeaderValue settings.userAgent then .ok ⟨settings, provider, shows⟩
  else .error (.service ("Failed to create HTTP client: " ++ Request.builderError none))

/-- The value of the authorization header for the next attempt. -/
def authorization (c : Client τ) : Work τ String := do
  let header ← Work.step c.provider.header
  Work.ofExcept header

/-- The request with the authorization header, if it is to carry one. -/
def authorize (c : Client τ) (r : Request) (authorized : Bool) : Work τ Request :=
  if authorized then do
    let value ← c.authorization
    if isHeaderValue value then
      return { r with headers := r.headers ++ [("authorization", value)] }
    else Work.fail (.service ("Failed to build request: " ++ Request.builderError none))
  else return r

/-- The request as it is sent, with the headers that every request has. -/
def complete (c : Client τ) (r : Request) : Request :=
  let headers := withDefault (withDefault r.headers ("accept", "*/*"))
    ("user-agent", c.settings.userAgent)
  { r with headers := match r.body with
    | none => headers
    | some b => withDefault headers ("content-length", toString b.utf8ByteSize) }

/-- The number of attempts allowed, for a report of a level. It is computed with 32 bits, but only if
the report is shown. -/
def attemptLimit (c : Client τ) (level : Log.Level) : Work τ Nat :=
  if c.shows level then Work.checked .addition (addWord? c.settings.maxRetries 1)
  else return c.settings.maxRetries + 1

/-- The pause after an attempt, if its seconds have 64 bits. -/
def pause? (c : Client τ) (attempt : Nat) : Option Duration :=
  c.settings.retryDelay.scale? (powWord (attempt - 1))

end Client

/-! ## Attempts -/

/-- The name of a status that asks for patience. -/
def patientStatus? : Nat → Option String
  | 429 => some "429 Too Many Requests"
  | 502 => some "502 Bad Gateway"
  | 503 => some "503 Service Unavailable"
  | 504 => some "504 Gateway Timeout"
  | _ => none

/-- Why an attempt is worth repeating; `none` if it succeeded or failed for good. -/
def retryReason? (url : Url) : Answer → Option String
  | .ok r => (patientStatus? r.status).map fun _ => "HTTP " ++ toString r.status
  | .error f => if f.isTransient then some (f.text url) else none

/-- The report of an attempt that is repeated. -/
def retried (url : Url) (number limit : Nat) : Answer → Log.Event
  | .ok r => .statusRetried ((patientStatus? r.status).getD "") number limit
  | .error f => .faultRetried (f.text url) number limit

/-- What the last attempt comes to. A fault is reported under the `earlier` reason for a repetition,
if there was one. -/
def conclude (url : Url) (number : Nat) (earlier : Option String) : Answer → Except Error Response
  | .ok r =>
    if r.isSuccess then .ok r
    else .error (.http r.status (match r.text with
      | .ok body => body
      | .error _ => ""))
  | .error f =>
    .error (.service ("HTTP request failed after " ++ toString number ++ " attempts: " ++
      earlier.getD (f.text url)))

namespace Client

variable {τ : Type}

/-- The attempt after `made` ones: its number, and how it ended. -/
def attempt (c : Client τ) (t : Transport τ) (r : Request) (authorized : Bool) (made : Nat) :
    Work τ (Nat × Answer) := do
  let number ← Work.checked .addition (addWord? made 1)
  let sent ← c.authorize r authorized
  let limit ← c.attemptLimit .debug
  Work.report (.attempt r.method r.url.text number limit)
  let answer ← Work.step (t.send (c.complete sent))
  return (number, answer)

/-- What is done before an attempt is repeated. -/
def backOff (c : Client τ) (url : Url) (number : Nat) (answer : Answer) : Work τ Unit := do
  let limit ← c.attemptLimit .warn
  Work.report (retried url number limit answer)
  let pause ← Work.checked .multiplication (c.pause? number)
  Work.report (.retryDelayed pause)
  Work.wait pause

/-- Attempts after `made` ones, of which at most `retries` are repetitions. -/
def attempts (c : Client τ) (t : Transport τ) (r : Request) (authorized : Bool) (made : Nat)
    (earlier : Option String) : Nat → Work τ Response
  | 0 => do
    let (number, answer) ← c.attempt t r authorized made
    Work.ofExcept (conclude r.url number earlier answer)
  | retries + 1 => do
    let (number, answer) ← c.attempt t r authorized made
    match retryReason? r.url answer with
    | none => Work.ofExcept (conclude r.url number earlier answer)
    | some reason =>
      c.backOff r.url number answer
      c.attempts t r authorized number (some reason) retries

/-- Sends a request with an authorization header. -/
def execute (c : Client τ) (t : Transport τ) (r : Request) : Work τ Response :=
  c.attempts t r true 0 none c.settings.maxRetries

/-- Sends a request that carries its own credentials. -/
def executePlain (c : Client τ) (t : Transport τ) (r : Request) : Work τ Response :=
  c.attempts t r false 0 none c.settings.maxRetries

end Client

end Http

end ResultFlow
