import ResultFlow.Stream.Bridge

/-!
# Producers

A producer holds the chunks of a stream and delivers one for each unit of demand; finding that none
is left costs a unit too. Demand is counted in permits up to a limit: a request that would reach the
limit makes the demand unbounded for good. Between taking a permit and delivering what it is for the
producer may still be cancelled.
-/

namespace ResultFlow

/-- The demand that a producer may still use. -/
structure Permits where
  available : Nat := 0
  unbounded : Bool := false
  /-- Whether permits are no longer given out. -/
  closed : Bool := false
  deriving DecidableEq, Inhabited

namespace Permits

/-- The limit of the permits. -/
def limit : Nat := 0x1FFFFFFFFFFFFFFF

/-- Adds `n` permits. At the limit a single permit wakes a producer that waits for one. -/
def request (p : Permits) (n : Nat) : Permits :=
  if n = 0 ∨ p.unbounded then p
  else if limit - p.available ≤ n then { p with unbounded := true, available := p.available + 1 }
  else { p with available := p.available + n }

/-- Takes the permit for one chunk. Unbounded demand needs none. -/
def acquire? (p : Permits) : Option Permits :=
  if p.unbounded then some p
  else if p.closed then none
  else match p.available with
    | 0 => none
    | n + 1 => some { p with available := n }

def close (p : Permits) : Permits := { p with closed := true }

end Permits

/-- What a producer tells a bridge once it is subscribed. -/
inductive Callback
  | next (bytes : Bytes)
  | finish
  | fail (cause : Error)
  deriving DecidableEq

namespace Callback

/-- The bytes that a callback brings. -/
def bytes : Callback → Bytes
  | next bytes => bytes
  | finish | fail _ => []

def isFailure : Callback → Bool
  | fail _ => true
  | next _ | finish => false

end Callback

/-- What a callback does to a bridge. -/
def Bridge.accept (b : Bridge) : Callback → Bridge
  | .next bytes => b.next bytes
  | .finish => b.finish
  | .fail cause => b.fail cause

/-- What a producer reports of its work: where it gets the chunks, and how long that takes. -/
structure Progress where
  url : String
  elapsed : Duration
  deriving DecidableEq, Inhabited

/-- A producer that has its chunks at hand. -/
structure Producer where
  /-- The chunks that are not delivered yet. -/
  ahead : List Bytes
  /-- Why the stream fails after them, if it does. -/
  fault : Option Error := none
  permits : Permits := {}
  /-- Whether a permit is taken and not yet used. -/
  holding : Bool := false
  /-- Whether the producer stopped. -/
  stopped : Bool := false
  /-- The bytes delivered so far. -/
  delivered : Nat := 0
  progress : Option Progress := none

namespace Producer

def request (p : Producer) (n : Nat) : Producer := { p with permits := p.permits.request n }

/-- The end of the stream. -/
def ending (p : Producer) : Callback :=
  match p.fault with
  | some cause => .fail cause
  | none => .finish

/-- Takes a permit, unless one is held. -/
def acquire? (p : Producer) : Option Producer :=
  if p.stopped then none
  else if p.holding then some p
  else p.permits.acquire?.map fun permits => { p with permits, holding := true }

/-- Uses the permit that is held. -/
def deliver? (p : Producer) : Option (Callback × Producer) :=
  if p.stopped || !p.holding then none
  else match p.ahead with
    | bytes :: ahead =>
      some (.next bytes,
        { p with ahead, holding := false, delivered := p.delivered + bytes.length })
    | [] => some (p.ending, { p with holding := false, stopped := true })

/-- Stops because of a cancellation, at whichever point the producer is. -/
def stop? (p : Producer) : Option Producer :=
  if p.permits.closed && !p.stopped then some { p with stopped := true } else none

/-- The next callback of a producer that was not cancelled, if there is a permit for it. -/
def step? (p : Producer) : Option (Callback × Producer) :=
  if p.permits.closed then none else p.acquire?.bind deliver?

/-- What the producer reports before a callback. -/
def reports (p : Producer) (c : Callback) : List Log.Event :=
  match p.progress, c with
  | none, _ | some _, .next _ => []
  | some w, .finish => [.objectDownloaded p.delivered w.url w.elapsed]
  | some w, .fail cause => [.downloadFailed w.url cause]

/-- Closes the permits. -/
def cancel (p : Producer) : Producer := { p with permits := p.permits.close }

/-- What the producer reports when it is cancelled. -/
def cancelled (p : Producer) : List Log.Event :=
  match p.progress with
  | none => []
  | some w => if p.stopped || p.permits.closed then [] else [.downloadCancelled w.url]

/-- The number of callbacks that are still to come. -/
def size (p : Producer) : Nat := p.ahead.length + if p.stopped then 0 else 1

theorem size_of_acquire? {p q : Producer} (h : p.acquire? = some q) : q.size = p.size := by
  unfold acquire? at h
  split at h
  · cases h
  · split at h
    · cases h; rfl
    · obtain ⟨permits, -, rfl⟩ := Option.map_eq_some_iff.1 h
      rfl

theorem size_of_deliver? {p q : Producer} {c : Callback} (h : p.deliver? = some (c, q)) :
    q.size < p.size := by
  unfold deliver? at h
  split at h
  · cases h
  · split at h <;> cases h <;> simp_all [size]

theorem size_of_step? {p q : Producer} {c : Callback} (h : p.step? = some (c, q)) :
    q.size < p.size := by
  unfold step? at h
  split at h
  · cases h
  · obtain ⟨r, hr, h⟩ := Option.bind_eq_some_iff.1 h
    exact size_of_acquire? hr ▸ size_of_deliver? h

/-- The callbacks that the demand so far allows. -/
def run (p : Producer) : List Callback × Producer :=
  match _h : p.step? with
  | none => ([], p)
  | some (c, q) =>
    let (cs, q) := q.run
    (c :: cs, q)
termination_by p.size
decreasing_by exact size_of_step? ‹_›

end Producer

end ResultFlow
