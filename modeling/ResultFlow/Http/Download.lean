import ResultFlow.Http.Exchange
import ResultFlow.Stream.Feed

/-!
# Downloads

An object is retrieved by a plain request to its location, without the token of the client. The body
of the answer is delivered to a bridge piece by piece, one for each unit of demand; a request that
fails fails the stream before it opens.
-/

namespace ResultFlow.Http

/-- A retrieval: by which client, and how long the delivery takes. -/
structure Download (τ : Type) where
  client : Client τ
  elapsed : Duration := ⟨0⟩

namespace Download

variable {τ : Type}

/-- The request for an object. -/
def requestFor (l : ObjectLocation) : Except Error Request :=
  match Request.build? "GET" l.url l.headers none with
  | .ok request => .ok request
  | .error text => .error (.service ("Failed to build download request: " ++ text))

/-- Sends the request for an object. -/
def fetch (d : Download τ) (t : Transport τ) (l : ObjectLocation) : Work τ Response := do
  let request ← Work.ofExcept (requestFor l)
  d.client.executePlain t request

/-- What the answer says of the object. -/
def infoOf (r : Response) : ObjectInfo := ⟨r.body.length, r.contentType⟩

/-- The producer of the body of an answer. -/
def producerOf (d : Download τ) (url : String) (r : Response) : Producer where
  ahead := r.body.pieces
  fault := if r.body.intact then none else some (.foreign bodyError)
  progress := some ⟨url, d.elapsed⟩

/-- What a subscriber is told of an object that requests chunks in turn and then perhaps cancels:
the answer of the store, and the callbacks after it. A panic is not told. -/
def tell (d : Download τ) (t : Transport τ) (l : ObjectLocation) (requests : List Nat)
    (cancels : Bool) : Work τ (ObjectInfo × List Callback) where
  run s :=
    let r := (d.fetch t l).run s
    match r.outcome with
    | .panic p => ⟨.panic p, r.state, r.trace⟩
    | .error e => ⟨.error e, r.state, r.trace ++ [.report (.objectNotOpened l.url e)]⟩
    | .ok response =>
      let p := requests.foldl Producer.request (d.producerOf l.url response)
      let (callbacks, q) := (if cancels then p.cancel else p).run
      ⟨.ok (infoOf response, callbacks), r.state, r.trace ++
        ((if cancels then p.cancelled else []) ++ callbacks.flatMap q.reports).map .report⟩

/-- The name of the subscription of a download. -/
def subscription : String := "download"

/-- Delivers an object to a bridge. -/
def deliver (d : Download τ) (t : Transport τ) (l : ObjectLocation) (b : Bridge) (s : τ) :
    Feed × τ :=
  let r := (d.fetch t l).run s
  let b := { b with events := b.events ++ r.events }
  match r.outcome with
  | .panic _ => ({ bridge := b }, r.state)
  | .error e => ({ bridge := (b.log (.objectNotOpened l.url e)).fail e }, r.state)
  | .ok response =>
    (({ bridge := b.answer (infoOf response) } : Feed).subscribe subscription
      (d.producerOf l.url response), r.state)

/-- Opens a stream of an object. -/
def start (d : Download τ) (t : Transport τ) (settings : StreamSettings) (l : ObjectLocation)
    (s : τ) : Feed × τ :=
  d.deliver t l (.forObject settings l.url) s

end Download

end ResultFlow.Http
