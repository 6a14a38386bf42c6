import ResultFlow.Stream.Producer
import ResultFlow.Stream.Reader

/-!
# Feeds

A feed is a bridge together with producers that work whenever demand reaches them: each change of
the bridge is followed by the deliveries that its signals allow, until every producer waits.
Readings of a fixed number of bytes, or up to the end, are repeated readings over a feed.
-/

namespace ResultFlow

/-- A bridge and its producers, by the names of their subscriptions. -/
structure Feed where
  bridge : Bridge
  producers : List (String × Producer) := []

namespace Feed

/-- A change of the producer of a subscription. -/
def change (f : Feed) (subscription : String) (g : Producer → Producer) : Feed :=
  { f with producers := f.producers.map fun (s, p) => (s, if s = subscription then g p else p) }

/-- The producer of a subscription. -/
def find? (f : Feed) (subscription : String) : Option Producer := f.producers.lookup subscription

/-- Adds what a producer reports to the events of the bridge. -/
def report (f : Feed) (events : List Log.Event) : Feed :=
  { f with bridge := { f.bridge with events := f.bridge.events ++ events } }

/-- Brings a signal to the producer it is meant for. -/
def signal (f : Feed) : Signal → Feed
  | .request s n => f.change s (·.request n)
  | .cancel s => (f.report ((f.find? s).elim [] (·.cancelled))).change s .cancel

/-- Takes over a new state of the bridge and brings its new signals to the producers. -/
def follow (f : Feed) (b : Bridge) : Feed :=
  (b.signals.drop f.bridge.signals.length).foldl signal { f with bridge := b }

/-- The first producer that can go on, and what it tells the bridge. -/
def step? (f : Feed) : Option Feed :=
  f.producers.findSome? fun sp => sp.2.step?.map fun cq =>
    let f := (f.change sp.1 fun _ => cq.2).report (cq.2.reports cq.1)
    f.follow (f.bridge.accept cq.1)

/-- The number of callbacks that are still to come. -/
def size (f : Feed) : Nat := f.producers.foldr (fun sp n => sp.2.size + n) 0

/-- At most `n` deliveries. -/
def steps (f : Feed) : Nat → Feed
  | 0 => f
  | n + 1 => match f.step? with
    | some g => g.steps n
    | none => f

/-- The deliveries that demand allows. -/
def settle (f : Feed) : Feed := f.steps f.size

/-- Changes the bridge and lets the producers work. -/
def update (f : Feed) (b : Bridge) : Feed := (f.follow b).settle

/-- Attaches a producer, in place of one of the same name, and subscribes it. -/
def subscribe (f : Feed) (subscription : String) (p : Producer) : Feed :=
  let others := f.producers.filter fun sp => sp.1 ≠ subscription
  { f with producers := others ++ [(subscription, p)] }.update (f.bridge.subscribe subscription)

/-! ## Readings -/

/-- Reads at most `n` bytes. -/
def read (f : Feed) (r : Reader) (n : Nat) (interrupted : Bool) : Reading × Reader × Feed :=
  let (x, r, b) := r.read f.bridge n interrupted
  (x, r, f.update b)

/-- Why a repeated reading stopped. -/
inductive Stop
  /-- All that was asked for is there. -/
  | done
  | failed (cause : ReadError)
  /-- The rest cannot be read yet. -/
  | blocked
  deriving DecidableEq

/-- The outcome of a repeated reading. -/
structure Gathered where
  bytes : Bytes
  stop : Stop
  deriving DecidableEq

/-- Reads exactly `n` bytes. The end of the stream before them is a failure. -/
def readExact (f : Feed) (r : Reader) (n : Nat) (interrupted : Bool) : Gathered × Reader × Feed :=
  if n = 0 then (⟨[], .done⟩, r, f)
  else match f.read r n interrupted with
    | (.bytes [], r, f) => (⟨[], .failed .endOfStream⟩, r, f)
    | (.bytes (b :: bs), r, f) =>
      let (g, r, f) := f.readExact r (n - (bs.length + 1)) interrupted
      (⟨b :: bs ++ g.bytes, g.stop⟩, r, f)
    | (.failed e, r, f) => (⟨[], .failed (.failed e)⟩, r, f)
    | (.blocked, r, f) => (⟨[], .blocked⟩, r, f)
termination_by n

/-- The bytes that wait anywhere in the feed. -/
def weight (f : Feed) : Nat :=
  f.bridge.queue.size + (f.producers.flatMap (·.2.ahead)).flatten.length

/-- Reads up to the end, in at most `fuel` readings of up to `n` bytes. -/
def readAll (f : Feed) (r : Reader) (n : Nat) (interrupted : Bool) : Nat → Gathered × Reader × Feed
  | 0 => (⟨[], .blocked⟩, r, f)
  | fuel + 1 => match f.read r n interrupted with
    | (.bytes [], r, f) => (⟨[], .done⟩, r, f)
    | (.bytes (b :: bs), r, f) =>
      let (g, r, f) := f.readAll r n interrupted fuel
      (⟨b :: bs ++ g.bytes, g.stop⟩, r, f)
    | (.failed e, r, f) => (⟨[], .failed (.failed e)⟩, r, f)
    | (.blocked, r, f) => (⟨[], .blocked⟩, r, f)

/-- Reads up to the end. Each reading but the last takes at least one of the bytes that wait. -/
def readToEnd (f : Feed) (r : Reader) (interrupted : Bool) : Gathered × Reader × Feed :=
  let waiting := f.weight + r.head.length
  f.readAll r (waiting + 1) interrupted (waiting + 1)

end Feed

end ResultFlow
