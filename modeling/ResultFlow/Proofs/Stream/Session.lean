import ResultFlow.Proofs.Stream.Delivery

/-!
# Sessions

A session is a bridge with the one reader that is made for it. Producer and reader act on it in any
order: what the producer tells, how the stream is opened or given up, readings, and at any time the
caller may be interrupted for good. A reading that finds nothing waits from then on, and wakes any
number of times, whatever came meanwhile. While it waits it has the reader to itself; a run that uses
the reader all the same, which no caller can do, gives up the reading that waits. The reader is made
once, a closed reader stays closed, and a reader at its end has nothing more to say.
-/

namespace ResultFlow

/-- A bridge, and the stream that is opened on it. -/
structure Session where
  bridge : Bridge
  prepared : Prepared := {}
  reader : Option Reader := none
  /-- The number of bytes that a reading waits for. -/
  parked : Option Nat := none
  interrupted : Bool := false

namespace Session

/-- What producer and reader do. -/
inductive Action
  | answer (info : ObjectInfo)
  | subscribe (subscription : String)
  | next (bytes : Bytes)
  | finish
  | fail (cause : Error)
  /-- Asks for the reader, which may watch for interruptions. -/
  | poll (watching : Bool)
  /-- Gives up the stream that is being opened. -/
  | drop
  /-- Lets readings that wait end when the caller is interrupted. -/
  | watch
  /-- Begins to read at most so many bytes. -/
  | read (n : Nat)
  | readByte
  /-- Wakes the reading that waits. -/
  | wake
  | available
  | close
  | interrupt
  deriving DecidableEq

namespace Action

/-- What an action adds to what the producer told. -/
def tell : Action → Account → Account
  | next bytes, a => a.next bytes
  | finish, a => a.finish
  | answer _, a | subscribe _, a | fail _, a | poll _, a | drop, a | watch, a | read _, a
  | readByte, a | wake, a | available, a | close, a | interrupt, a => a

/-- The number of bytes that a reading asks for when it begins. -/
def wanted : Action → Option Nat
  | read n => some n
  | readByte => some 1
  | answer _ | subscribe _ | next _ | finish | fail _ | poll _ | drop | watch | wake | available
  | close | interrupt => none

/-- Whether an action begins a reading or wakes one. -/
def reads : Action → Bool
  | read _ | readByte | wake => true
  | answer _ | subscribe _ | next _ | finish | fail _ | poll _ | drop | watch | available | close
  | interrupt => false

end Action

/-- A session to which no producer came yet. -/
def start (settings : StreamSettings) : Session := { bridge := .start settings }

/-- An action of the reader, if there is one. -/
def onReader (s : Session) (f : Reader → Reader × Bridge) : Session :=
  match s.reader with
  | some r => { s with reader := some (f r).1, bridge := (f r).2 }
  | none => s

/-- A reading of `n` bytes, if there is a reader. It waits if it is blocked. -/
def onReading (s : Session) (n : Nat) (f : Reader → Reading × Reader × Bridge) : Session :=
  match s.reader with
  | some r => { s with
    reader := some (f r).2.1
    bridge := (f r).2.2
    parked := if (f r).1 = .blocked then some n else none }
  | none => s

def step (s : Session) : Action → Session
  | .answer info => { s with bridge := s.bridge.answer info }
  | .subscribe subscription => { s with bridge := s.bridge.subscribe subscription }
  | .next bytes => { s with bridge := s.bridge.next bytes }
  | .finish => { s with bridge := s.bridge.finish }
  | .fail cause => { s with bridge := s.bridge.fail cause }
  | .poll watching => match s.prepared.poll s.bridge watching with
    | (some (.ok r), prepared) => { s with prepared, reader := some r }
    | (some (.error _), prepared) | (none, prepared) => { s with prepared }
  | .drop => { s with bridge := s.prepared.drop s.bridge, prepared := ⟨true⟩ }
  | .watch => s.onReader fun r => ({ r with watching := true }, s.bridge)
  | .read n => s.onReading n fun r => r.tryRead s.bridge n
  | .readByte => s.onReading 1 fun r => r.readByte s.bridge
  | .wake => match s.parked with
    | some n => s.onReading n fun r => r.wake s.bridge n s.interrupted
    | none => s
  | .available => s
  | .close => { s.onReader fun r => r.close s.bridge with parked := none }
  | .interrupt => { s with interrupted := true }

/-- The outcome of an action that reads. -/
def reading (s : Session) : Action → Option Reading
  | .read n => s.reader.map fun r => (r.tryRead s.bridge n).1
  | .readByte => s.reader.map fun r => (r.readByte s.bridge).1
  | .wake => match s.parked with
    | some n => s.reader.map fun r => (r.wake s.bridge n s.interrupted).1
    | none => none
  | .answer _ | .subscribe _ | .next _ | .finish | .fail _ | .poll _ | .drop | .watch | .available
  | .close | .interrupt => none

/-- The number of bytes that an action reads at most: a reading that begins, or the one that
waits. -/
def wanted (s : Session) : Action → Option Nat
  | .wake => s.parked
  | a => a.wanted

/-- The bytes that an action hands out. -/
def received (s : Session) (a : Action) : Bytes := (s.reading a).elim [] Reading.received

/-- No reader was closed. -/
def Unclosed (s : Session) : Prop := ∀ r, s.reader = some r → r.closed = false

/-- The reader, or what it would be if it were made now. -/
def current (s : Session) : Reader := s.reader.getD { info := default }

/-- The bytes that were told and not yet read. -/
def waiting (s : Session) : Bytes := s.current.head ++ s.bridge.queue.bytes

/-! ## The reader is made once -/

/-- The reader is made by a look at a stream that was not resolved, which resolves it. -/
theorem step_poll_cases (s : Session) (watching : Bool) :
    (∃ info, s.prepared.resolved = false ∧ s.bridge.opening = some (.ok info) ∧
      s.step (.poll watching) =
        { s with prepared := ⟨true⟩, reader := some { info, watching } }) ∨
    (∃ prepared, (s.prepared.resolved = true → prepared.resolved = true) ∧
      s.step (.poll watching) = { s with prepared }) := by
  simp only [step, Prepared.poll]
  by_cases hr : s.prepared.resolved = true
  · rw [if_pos hr]
    exact .inr ⟨_, id, rfl⟩
  · rw [if_neg hr]
    rcases ho : s.bridge.opening with _ | ⟨e | info⟩
    · exact .inr ⟨_, id, rfl⟩
    · exact .inr ⟨⟨true⟩, fun _ => rfl, rfl⟩
    · exact .inl ⟨info, Bool.eq_false_iff.mpr hr, rfl, rfl⟩

theorem onReader_of_none {s : Session} (h : s.reader = none) (f : Reader → Reader × Bridge) :
    s.onReader f = s := by
  unfold onReader
  rw [h]

theorem onReader_of_some {s : Session} {r : Reader} (h : s.reader = some r)
    (f : Reader → Reader × Bridge) :
    s.onReader f = { s with reader := some (f r).1, bridge := (f r).2 } := by
  unfold onReader
  rw [h]

theorem current_of_some {s : Session} {r : Reader} (h : s.reader = some r) : s.current = r := by
  rw [current, h]
  rfl

theorem onReader_prepared (s : Session) (f : Reader → Reader × Bridge) :
    (s.onReader f).prepared = s.prepared := by
  unfold onReader
  split <;> rfl

theorem onReader_reader (s : Session) (f : Reader → Reader × Bridge) :
    (s.onReader f).reader = s.reader.map fun r => (f r).1 := by
  rcases h : s.reader with _ | r
  · rw [onReader_of_none h, h]
    rfl
  · rw [onReader_of_some h]
    rfl

/-- An action of the reader does to the bridge what it does for the reader that there is. -/
theorem onReader_bridge {s : Session} {P : Bridge → Prop} (f : Reader → Reader × Bridge)
    (hn : P s.bridge) (hs : ∀ r, P (f r).2) : P (s.onReader f).bridge := by
  cases hr : s.reader with
  | none => rwa [onReader_of_none hr]
  | some r =>
    rw [onReader_of_some hr]
    exact hs r

/-! ## What a reading does -/

/-- An action that reads does nothing, or it begins a reading of the reader that there is, or it
wakes the one that waits. -/
theorem step_reading (s : Session) {a : Action} (ha : a.reads = true) :
    (s.reading a = none ∧ s.step a = s) ∨
    ∃ n r x r' b', s.wanted a = some n ∧ s.reader = some r ∧ s.reading a = some x ∧
      s.step a = { s with
        reader := some r', bridge := b', parked := if x = .blocked then some n else none } ∧
      (a.wanted = some n ∧ r.tryRead s.bridge n = (x, r', b') ∨
        a.wanted = none ∧ s.parked = some n ∧
          r.wake s.bridge n s.interrupted = (x, r', b')) := by
  have hreading : ∀ n f, (s.reader.map fun r => (f r).1) = none ∧ s.onReading n f = s ∨
      ∃ r, s.reader = some r ∧ (s.reader.map fun r => (f r).1) = some (f r).1 ∧
        s.onReading n f = { s with
          reader := some (f r).2.1
          bridge := (f r).2.2
          parked := if (f r).1 = .blocked then some n else none } := by
    intro n f
    unfold onReading
    rcases hr : s.reader with _ | r
    · exact .inl ⟨rfl, rfl⟩
    · exact .inr ⟨r, rfl, rfl, rfl⟩
  cases a with
  | read n =>
    rcases hreading n fun r => r.tryRead s.bridge n with h | ⟨r, hr, hx, hs⟩
    · exact .inl h
    · exact .inr ⟨n, r, _, _, _, rfl, hr, hx, hs, .inl ⟨rfl, rfl⟩⟩
  | readByte =>
    rcases hreading 1 fun r => r.readByte s.bridge with h | ⟨r, hr, hx, hs⟩
    · exact .inl h
    · exact .inr ⟨1, r, _, _, _, rfl, hr, hx, hs, .inl ⟨rfl, rfl⟩⟩
  | wake =>
    simp only [reading, step, wanted]
    rcases hp : s.parked with _ | n
    · exact .inl ⟨rfl, rfl⟩
    rcases hreading n fun r => r.wake s.bridge n s.interrupted with h | ⟨r, hr, hx, hs⟩
    · exact .inl h
    · exact .inr ⟨n, r, _, _, _, rfl, hr, hx, hs, .inr ⟨rfl, rfl, rfl⟩⟩
  | _ => cases ha

/-- A reading of an open stream is one of its reader. -/
theorem reading_of_wanted {s : Session} {r : Reader} {a : Action} {n : Nat} (hr : s.reader = some r)
    (ha : a.wanted = some n) : s.reading a = some (r.tryRead s.bridge n).1 := by
  cases a with
  | read m =>
    cases ha
    exact congrArg (Option.map _) hr
  | readByte =>
    cases ha
    exact congrArg (Option.map _) hr
  | _ => cases ha

/-- A reading takes at most one item from the queue. -/
theorem reads_step (s : Session) {a : Action} (ha : a.reads = true) :
    s.bridge.Reads (s.step a).bridge := by
  rcases s.step_reading ha with ⟨-, he⟩ | ⟨n, r, x, r', b', -, -, -, he, ⟨-, h⟩ | ⟨-, -, h⟩⟩ <;>
    rw [he]
  · exact .nothing
  · have hb := r.tryRead_reads s.bridge n
    rw [h] at hb
    exact hb
  · have hb := r.wake_reads s.bridge n s.interrupted
    rw [h] at hb
    exact hb

/-- A reading keeps the reader that there is, and neither closes nor opens it. -/
theorem reader_of_reads (s : Session) {a : Action} (ha : a.reads = true) :
    (s.step a).prepared = s.prepared ∧ (s.step a).interrupted = s.interrupted ∧
      (s.step a).reader.map (·.closed) = s.reader.map (·.closed) := by
  rcases s.step_reading ha with ⟨-, he⟩ | ⟨n, r, x, r', b', -, hr, -, he, h⟩ <;> rw [he]
  · exact ⟨rfl, rfl, rfl⟩
  · have hc : r'.closed = r.closed := by
      rcases h with ⟨-, h⟩ | ⟨-, -, h⟩
      · have hc := r.tryRead_closed s.bridge n
        rw [h] at hc
        exact hc
      · have hc := r.wake_closed s.bridge n s.interrupted
        rw [h] at hc
        exact hc
    rw [hr]
    exact ⟨rfl, rfl, congrArg some hc⟩

theorem parked_eq_some {x : Reading} {m n : Nat}
    (h : (if x = .blocked then some m else none) = some n) : x = .blocked ∧ m = n := by
  by_cases hx : x = .blocked
  · rw [if_pos hx, Option.some.injEq] at h
    exact ⟨hx, h⟩
  · rw [if_neg hx] at h
    cases h

/-- A reading that has to wait found nothing at hand and nothing in the queue. -/
theorem waiting_of_blocked {s : Session} {a : Action} {n : Nat} (ha : a.wanted = some n)
    (hx : s.reading a = some .blocked) : s.waiting = [] := by
  rcases hr : s.reader with _ | r
  · cases a with
    | read | readByte =>
      rw [reading, hr] at hx
      cases hx
    | _ => cases ha
  · rw [reading_of_wanted hr ha, Option.some.injEq] at hx
    obtain ⟨-, -, hh, -, hi, -⟩ := Reader.tryRead_blocked hx
    rw [waiting, current_of_some hr, hh, Queue.bytes, hi]
    rfl

/-- Only a reading makes one wait. -/
theorem parked_of_step {s : Session} {a : Action} (ha : a.reads = false) {n : Nat}
    (hp : (s.step a).parked = some n) : s.parked = some n := by
  cases a with
  | read | readByte | wake => cases ha
  | poll watching =>
    rcases s.step_poll_cases watching with ⟨info, -, -, he⟩ | ⟨prepared, -, he⟩ <;>
      exact (congrArg parked he).symm.trans hp
  | watch =>
    rw [step, onReader] at hp
    split at hp <;> exact hp
  | close => cases hp
  | _ => exact hp

/-! ## What every run keeps -/

/-- A stream whose reader was asked for is resolved. -/
def Resolved (s : Session) : Prop := s.reader ≠ none → s.prepared.resolved = true

theorem resolved_start (settings : StreamSettings) : (start settings).Resolved :=
  fun h => absurd rfl h

theorem Resolved.of_reader {s s' : Session} (h : s.Resolved) (hp : s'.prepared = s.prepared)
    {f : Reader → Bool} (hr : s'.reader.map f = s.reader.map f) : s'.Resolved := by
  intro hs
  rw [hp]
  refine h fun hn => hs ?_
  rw [hn] at hr
  exact Option.map_eq_none_iff.mp hr

theorem Resolved.step {s : Session} (h : s.Resolved) (a : Action) : (s.step a).Resolved := by
  by_cases ha : a.reads = true
  · obtain ⟨hp, -, hr⟩ := s.reader_of_reads ha
    exact h.of_reader hp hr
  cases a with
  | poll watching =>
    rcases s.step_poll_cases watching with ⟨info, -, -, he⟩ | ⟨prepared, hp, he⟩
    · rw [he]
      exact fun _ => rfl
    · rw [he]
      exact fun hr => hp (h hr)
  | drop => exact fun _ => rfl
  | watch | close =>
    refine h.of_reader (f := fun _ => true) (onReader_prepared ..) ?_
    exact (congrArg _ (onReader_reader ..)).trans (Option.map_map ..)
  | read | readByte | wake => exact absurd rfl ha
  | _ => exact h

theorem Resolved.reader_eq_none {s : Session} (h : s.Resolved) (hn : s.prepared.resolved = false) :
    s.reader = none := by
  rcases hr : s.reader with _ | r
  · rfl
  · rw [h (by rw [hr]; exact Option.some_ne_none _)] at hn
    exact Bool.noConfusion hn

theorem close_closed (r : Reader) (b : Bridge) : (r.close b).1.closed = true := by
  unfold Reader.close
  split
  · assumption
  · split <;> rfl

/-- A closed reader stays closed. -/
theorem unclosed_of_step {s : Session} (hs : s.Resolved) {a : Action} (h : (s.step a).Unclosed) :
    s.Unclosed := by
  intro r hr
  have hstay : ∀ f : Reader → Reader × Bridge, (s.step a).reader = (s.onReader f).reader →
      (r.closed = true → (f r).1.closed = true) → r.closed = false := by
    intro f hf hc
    rw [Bool.eq_false_iff]
    intro hr'
    have := h (f r).1 (by rw [hf, onReader_of_some hr])
    rw [hc hr'] at this
    exact Bool.noConfusion this
  by_cases ha : a.reads = true
  · obtain ⟨-, -, hc⟩ := s.reader_of_reads ha
    rw [hr, Option.map_some, Option.map_eq_some_iff] at hc
    obtain ⟨r', hr', hc⟩ := hc
    exact hc.symm.trans (h r' hr')
  cases a with
  | poll watching =>
    rcases s.step_poll_cases watching with ⟨info, hn, -, -⟩ | ⟨prepared, -, he⟩
    · rw [hs.reader_eq_none hn] at hr
      cases hr
    · exact h r (by rw [he]; exact hr)
  | watch => exact hstay _ rfl id
  | close => exact hstay _ rfl fun _ => close_closed ..
  | read | readByte | wake => exact absurd rfl ha
  | _ => exact h r hr

/-- Only closing closes a reader. -/
theorem Unclosed.step {s : Session} (h : s.Unclosed) {a : Action} (ha : a ≠ .close) :
    (s.step a).Unclosed := by
  intro r' hr'
  by_cases hd : a.reads = true
  · obtain ⟨-, -, hc⟩ := s.reader_of_reads hd
    rw [hr', Option.map_some, eq_comm, Option.map_eq_some_iff] at hc
    obtain ⟨r, hr, hc⟩ := hc
    exact hc.symm.trans (h r hr)
  cases a with
  | poll watching =>
    rcases s.step_poll_cases watching with ⟨info, -, -, he⟩ | ⟨prepared, -, he⟩
    · rw [he] at hr'
      cases hr'
      rfl
    · rw [he] at hr'
      exact h r' hr'
  | watch =>
    rw [Session.step, onReader_reader, Option.map_eq_some_iff] at hr'
    obtain ⟨r, hr, rfl⟩ := hr'
    exact h r hr
  | read | readByte | wake => exact absurd rfl hd
  | close => exact absurd rfl ha
  | _ => exact h r' hr'

/-- A reading that waits asked an open reader for at least one byte, with nothing at hand and before
the end. -/
def Poised (s : Session) : Prop :=
  ∀ n, s.parked = some n → n ≠ 0 ∧
    ∃ r, s.reader = some r ∧ r.closed = false ∧ r.head = [] ∧ r.finished = false

theorem poised_start (settings : StreamSettings) : (start settings).Poised := nofun

theorem Poised.reads {s : Session} (h : s.Poised) {a : Action} (ha : a.reads = true) :
    (s.step a).Poised := by
  rcases s.step_reading ha with ⟨-, he⟩ | ⟨n, r, x, r', b', -, hr, -, he, hq⟩ <;> rw [he]
  · exact h
  intro m hp
  obtain ⟨hx, rfl⟩ := parked_eq_some hp
  rcases hq with ⟨-, hq⟩ | ⟨-, hparked, hq⟩
  · obtain ⟨hn, hc, hh, hd, -, he⟩ := Reader.tryRead_blocked ((congrArg Prod.fst hq).trans hx)
    rw [hq] at he
    cases he
    exact ⟨hn, _, rfl, hc, hh, hd⟩
  · have he := Reader.wake_blocked ((congrArg Prod.fst hq).trans hx)
    rw [hq] at he
    cases he
    obtain ⟨hn, r, hr', hq⟩ := h n hparked
    rw [hr] at hr'
    cases hr'
    exact ⟨hn, _, rfl, hq⟩

theorem Poised.step {s : Session} (h : s.Poised) (hs : s.Resolved) (a : Action) :
    (s.step a).Poised := by
  by_cases ha : a.reads = true
  · exact h.reads ha
  cases a with
  | poll watching =>
    rcases s.step_poll_cases watching with ⟨info, hn, -, he⟩ | ⟨prepared, -, he⟩ <;> rw [he]
    · intro n hp
      obtain ⟨-, r, hr, -⟩ := h n hp
      rw [hs.reader_eq_none hn] at hr
      cases hr
    · exact h
  | watch =>
    rw [Session.step]
    rcases hr : s.reader with _ | r
    · rw [onReader_of_none hr]
      exact h
    · rw [onReader_of_some hr]
      intro n hp
      obtain ⟨hn, r', hr', hq⟩ := h n hp
      rw [hr] at hr'
      cases hr'
      exact ⟨hn, _, rfl, hq⟩
  | close => exact nofun
  | read | readByte | wake => exact absurd rfl ha
  | _ => exact h

/-- A reader that is made has no chunk at hand and did not reach the end. -/
theorem Resolved.poll_current {s : Session} (h : s.Resolved) (watching : Bool) :
    (s.step (.poll watching)).current.head = s.current.head ∧
      (s.step (.poll watching)).current.finished = s.current.finished ∧
      (s.step (.poll watching)).bridge = s.bridge := by
  rcases s.step_poll_cases watching with ⟨info, hn, -, he⟩ | ⟨prepared, -, he⟩
  · rw [he, current, current, h.reader_eq_none hn]
    exact ⟨rfl, rfl, rfl⟩
  · rw [he]
    exact ⟨rfl, rfl, rfl⟩

theorem watch_current (s : Session) :
    (s.step .watch).current.head = s.current.head ∧
      (s.step .watch).current.finished = s.current.finished ∧
      (s.step .watch).bridge = s.bridge := by
  rcases hr : s.reader with _ | r
  · rw [show s.step .watch = s from onReader_of_none hr _]
    exact ⟨rfl, rfl, rfl⟩
  · rw [show s.step .watch = _ from onReader_of_some hr _, current, current, hr]
    exact ⟨rfl, rfl, rfl⟩

theorem drop_queue (p : Prepared) (b : Bridge) : (p.drop b).queue = b.queue := by
  unfold Prepared.drop
  split
  · rfl
  · exact Bridge.release_queue _

/-! ## After the end -/

/-- The reader reached the end, or was closed, and no reading waits. -/
def Silent (s : Session) : Prop :=
  s.parked = none ∧ ∃ r, s.reader = some r ∧ (r.closed = true ∨ r.head = [] ∧ r.finished = true)

theorem silent_read {r : Reader} (h : r.closed = true ∨ r.head = [] ∧ r.finished = true) (b : Bridge)
    (n : Nat) :
    (r.tryRead b n).2 = (r, b) ∧ (b.failure = none → (r.tryRead b n).1 = .bytes []) := by
  by_cases hc : r.closed = true
  · rw [Reader.tryRead_of_closed hc]
    exact ⟨rfl, fun _ => rfl⟩
  · obtain ⟨hh, hd⟩ := h.resolve_left hc
    obtain ⟨h2, h1⟩ := Reader.tryRead_of_finished (b := b) (Bool.eq_false_iff.mpr hc) hh hd n
    exact ⟨h2, fun hf => by rw [h1 hf]⟩

/-- Nothing but a failure gives a reader that is silent something to say. -/
theorem Silent.reading {s : Session} (h : s.Silent) (hf : s.bridge.failure = none) {a : Action}
    (ha : a.wanted ≠ none) : s.reading a = some (.bytes []) := by
  obtain ⟨-, r, hr, h⟩ := h
  obtain ⟨n, hn⟩ := Option.ne_none_iff_exists'.mp ha
  rw [reading_of_wanted hr hn, (silent_read h ..).2 hf]

theorem Silent.reads {s : Session} (h : s.Silent) {a : Action} (ha : a.reads = true) :
    (s.step a).Silent := by
  obtain ⟨hp, r, hr, h⟩ := h
  rcases s.step_reading ha with ⟨-, he⟩ | ⟨n, r', x, r'', b', -, hr', -, he, ⟨-, hq⟩ | ⟨-, hq, -⟩⟩
  · rw [he]
    exact ⟨hp, r, hr, h⟩
  · rw [hr] at hr'
    cases hr'
    have hx : x ≠ .blocked := by
      rintro rfl
      obtain ⟨-, hc, -, hd, -⟩ := Reader.tryRead_blocked (congrArg Prod.fst hq)
      rcases h with h | ⟨-, h⟩
      · rw [hc] at h
        cases h
      · rw [hd] at h
        cases h
    have hs := (silent_read h s.bridge n).1
    rw [hq] at hs
    cases hs
    rw [he]
    exact ⟨if_neg hx, r, rfl, h⟩
  · rw [hp] at hq
    cases hq

theorem Silent.step {s : Session} (h : s.Silent) (hs : s.Resolved) (a : Action) :
    (s.step a).Silent := by
  by_cases ha : a.reads = true
  · exact h.reads ha
  obtain ⟨hp, r, hr, h⟩ := h
  cases a with
  | poll watching =>
    rcases s.step_poll_cases watching with ⟨info, hn, -, -⟩ | ⟨prepared, -, he⟩
    · rw [hs.reader_eq_none hn] at hr
      cases hr
    · rw [he]
      exact ⟨hp, r, hr, h⟩
  | watch =>
    rw [Session.step, onReader_of_some hr]
    exact ⟨hp, _, rfl, h⟩
  | close =>
    exact ⟨rfl, _, congrArg Session.reader (onReader_of_some hr _), .inl (close_closed ..)⟩
  | read | readByte | wake => exact absurd rfl ha
  | _ => exact ⟨hp, r, hr, h⟩

end Session

end ResultFlow
