import ResultFlow.Stream.Flow
import ResultFlow.Stream.Queue

/-!
# Bridges

A bridge stands between a producer that pushes chunks and a reader that pulls bytes. The producer
tells it the answer of the store, its subscription, the chunks, and how the stream ends; the bridge
queues the chunks and sends demand back. The first answer or failure decides how the stream opens,
the first failure is kept for good, and the subscription is cancelled at most once, as soon as both
the subscription and a reason are there.
-/

namespace ResultFlow

/-- What a store says of an object before its first chunk. -/
structure ObjectInfo where
  /-- The declared length. -/
  length : Option Nat
  /-- The declared content type. -/
  type : Option String
  deriving DecidableEq, Inhabited

/-- What a bridge tells a subscription, by the name of the subscription. -/
inductive Signal
  | request (subscription : String) (chunks : Nat)
  | cancel (subscription : String)
  deriving DecidableEq, Inhabited

/-- The state that a producer and a reader share. -/
structure Bridge where
  flow : Flow
  queue : Queue := {}
  /-- The subscription that demand goes to. -/
  subscription : Option String := none
  /-- Whether nothing more is wanted from the producer. -/
  released : Bool := false
  complete : Bool := false
  /-- The first answer of the store. -/
  response : Option ObjectInfo := none
  /-- How the stream opens, once that is decided. -/
  opening : Option (Except Error ObjectInfo) := none
  /-- The cause of the first failure. -/
  failure : Option Error := none
  signals : List Signal := []
  events : List Log.Event := []

namespace Bridge

/-- A bridge to which no producer came yet. -/
def start (settings : StreamSettings) : Bridge := { flow := .start settings }

/-- The bridge for the object at an address. -/
def forObject (settings : StreamSettings) (url : String) : Bridge :=
  { start settings with events := [.objectOpening url] }

def log (b : Bridge) (e : Log.Event) : Bridge := { b with events := b.events ++ [e] }

def send (b : Bridge) (s : Signal) : Bridge := { b with signals := b.signals ++ [s] }

/-- The failure that every reading reports. -/
def streamFailure (b : Bridge) : Option Error := b.failure.map .stream

/-- Sends demand to the subscription, unless nothing more is wanted. -/
def request (b : Bridge) (chunks : Nat) : Bridge :=
  if b.released then b
  else match b.subscription with
    | some s => b.send (.request s chunks)
    | none => b

/-- Takes over new counters and sends the demand that came with them. -/
def withFlow (b : Bridge) (demand : Option Nat) (flow : Flow) : Bridge :=
  let b := { b with flow, events := b.events ++ flow.granted demand }
  match demand with
  | some n => b.request n
  | none => b

/-- Cancels the subscription, now or as soon as it comes. Only the first call has an effect. -/
def release (b : Bridge) : Bridge :=
  if b.released then b
  else match b.subscription with
    | some s =>
      let b := { b with released := true, subscription := none }
      (b.log .subscriptionCancelled).send (.cancel s)
    | none => { b with released := true }

/-- Decides how the stream opens, unless that is decided. -/
def open? (b : Bridge) (outcome : Except Error ObjectInfo) : Bridge :=
  { b with opening := b.opening <|> some outcome }

/-! ## What the producer tells -/

/-- The store answered. -/
def answer (b : Bridge) (info : ObjectInfo) : Bridge :=
  let b := b.log (.objectAnswered info.length info.type)
  { b with response := b.response <|> some info }.open? (.ok info)

/-- The producer is ready to take demand under the name of a subscription. -/
def subscribe (b : Bridge) (subscription : String) : Bridge :=
  if b.released then (b.log .subscribedTooLate).send (.cancel subscription)
  else
    let length := b.response.bind (·.length)
    let (demand, flow) := b.flow.subscribe length
    ({ b with subscription := some subscription, flow }.log (b.flow.subscribed length)).send
      (.request subscription demand)

/-- A chunk arrived. -/
def next (b : Bridge) (bytes : Bytes) : Bridge :=
  let (demand, flow) := b.flow.chunk bytes.length
  { b with queue := (b.queue.push bytes).2 }.withFlow demand flow

/-- The stream ended after its last chunk. -/
def finish (b : Bridge) : Bridge :=
  let b := b.log .streamCompleted
  { b with complete := true, queue := b.queue.finish.2 }

/-- The stream failed. A later failure is ignored. -/
def fail (b : Bridge) (cause : Error) : Bridge :=
  match b.failure with
  | some _ => b.log (.failureIgnored cause)
  | none =>
    let b := { b with failure := some cause }.log (.streamFailed cause)
    (b.open? (.error (.stream cause))).release

/-! ## What the reader does -/

/-- Accounts for a chunk that the reader took. -/
def consume (b : Bridge) (size : Nat) : Bridge :=
  let (demand, flow) := b.flow.consumed size
  b.withFlow demand flow

/-- Takes the first item of the queue. -/
def take (b : Bridge) : Option Item × Bridge :=
  let (item, queue) := b.queue.take
  (item, { b with queue })

/-- What a report says of a bridge. -/
def text (b : Bridge) : String :=
  "StreamingBridge \x7b flow: " ++ b.flow.text ++ ", released: " ++ toString b.released ++
    ", complete: " ++ toString b.complete ++ ", failed: " ++ toString b.failure.isSome ++ " \x7d"

end Bridge

end ResultFlow
