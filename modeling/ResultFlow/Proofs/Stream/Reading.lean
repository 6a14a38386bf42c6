import ResultFlow.Stream.Reader

/-!
# Readings from a bridge

What the operations of a bridge leave alone, and what a reading can do to it (`Bridge.Reads`). While
no failure is recorded, a reading of an open reader hands out bytes of the chunk at hand, reports the
end again, or looks into the queue (`Reader.tryRead_cases`); one that wakes is interrupted or looks
into the queue (`Reader.wake_cases`). There it waits, begins the next chunk, or reaches the end
(`Reader.readNext_cases`).
-/

namespace ResultFlow

/-! ## What the operations of a bridge leave alone -/

namespace Bridge

variable (b : Bridge)

/-- A request touches only the signals. -/
theorem request_eq (n : Nat) : ∃ signals, b.request n = { b with signals } := by
  unfold request
  split
  · exact ⟨_, rfl⟩
  · split <;> exact ⟨_, rfl⟩

/-- New counters come with events and signals. -/
theorem withFlow_eq (demand : Option Nat) (flow : Flow) :
    ∃ events signals, b.withFlow demand flow = { b with flow, events, signals } := by
  unfold withFlow
  cases demand with
  | none => exact ⟨_, _, rfl⟩
  | some n =>
    obtain ⟨signals, h⟩ := request_eq
      { b with flow, events := b.events ++ flow.granted (some n) } n
    exact ⟨_, signals, h⟩

theorem release_eq : ∃ subscription events signals,
    b.release = { b with released := true, subscription, events, signals } := by
  unfold release
  by_cases h : b.released = true
  · rw [if_pos h]
    exact ⟨b.subscription, b.events, b.signals, by rw [← h]⟩
  · rw [if_neg h]
    split
    · exact ⟨_, _, _, rfl⟩
    · exact ⟨_, _, _, rfl⟩

@[simp] theorem withFlow_queue (demand : Option Nat) (flow : Flow) :
    (b.withFlow demand flow).queue = b.queue := by
  obtain ⟨_, _, h⟩ := b.withFlow_eq demand flow
  rw [h]

@[simp] theorem withFlow_complete (demand : Option Nat) (flow : Flow) :
    (b.withFlow demand flow).complete = b.complete := by
  obtain ⟨_, _, h⟩ := b.withFlow_eq demand flow
  rw [h]

@[simp] theorem withFlow_failure (demand : Option Nat) (flow : Flow) :
    (b.withFlow demand flow).failure = b.failure := by
  obtain ⟨_, _, h⟩ := b.withFlow_eq demand flow
  rw [h]

@[simp] theorem withFlow_flow (demand : Option Nat) (flow : Flow) :
    (b.withFlow demand flow).flow = flow := by
  obtain ⟨_, _, h⟩ := b.withFlow_eq demand flow
  rw [h]

@[simp] theorem withFlow_released (demand : Option Nat) (flow : Flow) :
    (b.withFlow demand flow).released = b.released := by
  obtain ⟨_, _, h⟩ := b.withFlow_eq demand flow
  rw [h]

@[simp] theorem withFlow_subscription (demand : Option Nat) (flow : Flow) :
    (b.withFlow demand flow).subscription = b.subscription := by
  obtain ⟨_, _, h⟩ := b.withFlow_eq demand flow
  rw [h]

@[simp] theorem withFlow_response (demand : Option Nat) (flow : Flow) :
    (b.withFlow demand flow).response = b.response := by
  obtain ⟨_, _, h⟩ := b.withFlow_eq demand flow
  rw [h]

/-- Demand goes to the subscription. -/
theorem withFlow_signals {b : Bridge} {s : String} (hr : b.released = false)
    (hs : b.subscription = some s) (demand : Option Nat) (flow : Flow) :
    (b.withFlow demand flow).signals = b.signals ++ (demand.map (.request s)).toList := by
  cases demand with
  | none => exact (List.append_nil _).symm
  | some n =>
    simp only [withFlow, request, hr, hs, Bool.false_eq_true, if_false]
    rfl

@[simp] theorem release_queue : b.release.queue = b.queue := by
  obtain ⟨_, _, _, h⟩ := b.release_eq
  rw [h]

@[simp] theorem release_complete : b.release.complete = b.complete := by
  obtain ⟨_, _, _, h⟩ := b.release_eq
  rw [h]

@[simp] theorem release_failure : b.release.failure = b.failure := by
  obtain ⟨_, _, _, h⟩ := b.release_eq
  rw [h]

@[simp] theorem consume_flow (size : Nat) : (b.consume size).flow = (b.flow.consumed size).2 :=
  withFlow_flow ..

@[simp] theorem next_flow (bytes : Bytes) :
    (b.next bytes).flow = (b.flow.chunk bytes.length).2 :=
  withFlow_flow ..

@[simp] theorem consume_subscription (size : Nat) :
    (b.consume size).subscription = b.subscription :=
  withFlow_subscription ..

@[simp] theorem next_subscription (bytes : Bytes) :
    (b.next bytes).subscription = b.subscription :=
  withFlow_subscription ..

@[simp] theorem consume_released (size : Nat) : (b.consume size).released = b.released :=
  withFlow_released ..

@[simp] theorem next_released (bytes : Bytes) : (b.next bytes).released = b.released :=
  withFlow_released ..

@[simp] theorem consume_response (size : Nat) : (b.consume size).response = b.response :=
  withFlow_response ..

@[simp] theorem next_response (bytes : Bytes) : (b.next bytes).response = b.response :=
  withFlow_response ..

@[simp] theorem consume_queue (size : Nat) : (b.consume size).queue = b.queue :=
  withFlow_queue ..

@[simp] theorem consume_complete (size : Nat) : (b.consume size).complete = b.complete :=
  withFlow_complete ..

@[simp] theorem consume_failure (size : Nat) : (b.consume size).failure = b.failure :=
  withFlow_failure ..

@[simp] theorem next_queue (bytes : Bytes) : (b.next bytes).queue = (b.queue.push bytes).2 :=
  withFlow_queue ..

@[simp] theorem next_complete (bytes : Bytes) : (b.next bytes).complete = b.complete :=
  withFlow_complete ..

@[simp] theorem next_failure (bytes : Bytes) : (b.next bytes).failure = b.failure :=
  withFlow_failure ..

@[simp] theorem subscribe_queue (s : String) : (b.subscribe s).queue = b.queue := by
  unfold subscribe
  split <;> rfl

@[simp] theorem subscribe_complete (s : String) : (b.subscribe s).complete = b.complete := by
  unfold subscribe
  split <;> rfl

@[simp] theorem subscribe_failure (s : String) : (b.subscribe s).failure = b.failure := by
  unfold subscribe
  split <;> rfl

@[simp] theorem fail_queue (cause : Error) : (b.fail cause).queue = b.queue := by
  unfold fail
  split
  · rfl
  · exact release_queue _

@[simp] theorem fail_complete (cause : Error) : (b.fail cause).complete = b.complete := by
  unfold fail
  split
  · rfl
  · exact release_complete _

end Bridge

/-! ## Queues and their sizes -/

@[simp] theorem Queue.push_finished (q : Queue) (bytes : Bytes) :
    (q.push bytes).2.finished = q.finished := by
  unfold push
  split <;> rfl

@[simp] theorem Queue.push_closed (q : Queue) (bytes : Bytes) :
    (q.push bytes).2.closed = q.closed := by
  unfold push
  split <;> rfl

theorem Queue.size_push {q : Queue} (hf : q.finished = false) (hc : q.closed = false) (bytes : Bytes) :
    (q.push bytes).2.size = q.size + bytes.length := by
  by_cases hb : bytes = []
  · rw [push, dif_neg (fun h => h.1 hb), hb]
    rfl
  · have hq : (q.push bytes).2 = { q with items := q.items ++ [.chunk ⟨bytes, hb⟩] } := by
      rw [push, dif_pos ⟨hb, hf, hc⟩]
    rw [hq]
    simp [size, Item.bytes]

theorem Queue.size_of_chunk {q : Queue} {c : Chunk} {rest : List Item}
    (h : q.items = .chunk c :: rest) : q.size = c.val.length + { q with items := rest }.size := by
  unfold size
  rw [h, List.flatMap_cons, List.length_append]
  rfl

theorem Queue.size_finish (q : Queue) : q.finish.2.size = q.size := by
  unfold finish
  split
  · rfl
  · split
    · rfl
    · simp [size, Item.bytes]

/-- An item is taken, or there is none yet, or the end is reported without one. -/
theorem Queue.take_cases (q : Queue) :
    (∃ i rest, q.items = i :: rest ∧ q.take = (some i, { q with items := rest })) ∨
    (q.items = [] ∧ q.take = (none, q)) ∨
    (q.abandoned || q.closed) = true ∧ q.take = (some .finish, q) := by
  unfold take
  split
  · exact .inl ⟨_, _, ‹_›, rfl⟩
  · rename_i hi
    by_cases h : (q.abandoned || q.closed) = true
    · rw [if_pos h]
      exact .inr (.inr ⟨h, rfl⟩)
    · rw [if_neg h]
      exact .inr (.inl ⟨hi, rfl⟩)

/-! ## What a reading can do -/

/-- What a reading does to a bridge: nothing, or it takes a chunk from the queue or the end marker.
The end of a queue that was left or closed is only reported. -/
inductive Bridge.Reads (b : Bridge) : Bridge → Prop
  | nothing : b.Reads b
  | chunk {c : Chunk} {rest : List Item} (h : b.queue.items = .chunk c :: rest) :
    b.Reads (({ b with queue := { b.queue with items := rest } }).consume c.val.length)
  | finish {rest : List Item} (h : b.queue.items = .finish :: rest) :
    b.Reads (({ b with queue := { b.queue with items := rest } }).log .endReached)
  | left (h : (b.queue.abandoned || b.queue.closed) = true) : b.Reads (b.log .endReached)

namespace Reader

variable {r : Reader} {b : Bridge} {n : Nat}

theorem streamFailure_none (hf : b.failure = none) : b.streamFailure = none := by
  rw [Bridge.streamFailure, hf]
  rfl

theorem readNext_reads (r : Reader) (b : Bridge) (n : Nat) : b.Reads (r.readNext b n).2.2 := by
  unfold readNext Bridge.take
  rcases b.queue.take_cases with ⟨c | _, rest, hi, ht⟩ | ⟨-, ht⟩ | ⟨hd, ht⟩ <;> rw [ht]
  · exact .chunk hi
  · exact .finish hi
  · exact .nothing
  · exact .left hd

theorem tryRead_reads (r : Reader) (b : Bridge) (n : Nat) : b.Reads (r.tryRead b n).2.2 := by
  unfold tryRead
  split
  · exact .nothing
  split
  · exact .nothing
  split
  · exact .nothing
  split
  · exact .nothing
  split
  · exact .nothing
  exact r.readNext_reads b n

theorem wake_reads (r : Reader) (b : Bridge) (n : Nat) (i : Bool) :
    b.Reads (r.wake b n i).2.2 := by
  unfold wake
  split
  · exact .nothing
  split
  · exact .nothing
  exact r.readNext_reads b n

/-- A look into a queue that is open. -/
theorem readNext_cases (hq : b.queue.closed = false) (ha : b.queue.abandoned = false) (r : Reader)
    (n : Nat) :
    (b.queue.items = [] ∧ r.readNext b n = (.blocked, r, b)) ∨
    (∃ c rest, b.queue.items = .chunk c :: rest ∧
      r.readNext b n = (.bytes (c.val.take n), { r with head := c.val.drop n },
        ({ b with queue := { b.queue with items := rest } }).consume c.val.length)) ∨
    (∃ rest, b.queue.items = .finish :: rest ∧
      r.readNext b n = (.bytes [], { r with finished := true },
        ({ b with queue := { b.queue with items := rest } }).log .endReached)) := by
  unfold readNext Bridge.take Queue.take
  rcases hi : b.queue.items with _ | ⟨c | _, rest⟩
  · simp only [hq, ha, Bool.or_false, Bool.false_eq_true, if_false]
    exact .inl ⟨trivial, trivial⟩
  · exact .inr (.inl ⟨c, rest, rfl, rfl⟩)
  · exact .inr (.inr ⟨rest, rfl, rfl⟩)

theorem tryRead_of_closed (h : r.closed = true) (n : Nat) : r.tryRead b n = (.bytes [], r, b) := by
  unfold tryRead
  rw [if_pos h]

theorem tryRead_of_failure {e : Error} (h : r.closed = false) (hf : b.failure = some e) (n : Nat) :
    r.tryRead b n = (.failed (.stream e), r, b) := by
  unfold tryRead Bridge.streamFailure
  rw [if_neg (Bool.eq_false_iff.mp h), hf]
  rfl

/-- A failure wakes every reading. -/
theorem wake_of_failure {e : Error} (hf : b.failure = some e) (n : Nat) (i : Bool) :
    r.wake b n i = (.failed (.stream e), r, b) := by
  unfold wake Bridge.streamFailure
  rw [hf]
  rfl

theorem tryRead_zero (h : r.closed = false) (hf : b.failure = none) :
    r.tryRead b 0 = (.bytes [], r, b) := by
  unfold tryRead
  rw [if_neg (Bool.eq_false_iff.mp h), streamFailure_none hf]
  rfl

/-- A reading of at least one byte, while no failure is recorded. -/
theorem tryRead_cases (h : r.closed = false) (hf : b.failure = none) (hn : n ≠ 0) :
    (r.head ≠ [] ∧ r.tryRead b n = (.bytes (r.head.take n), { r with head := r.head.drop n }, b)) ∨
    (r.head = [] ∧ r.finished = true ∧ r.tryRead b n = (.bytes [], r, b)) ∨
    (r.head = [] ∧ r.finished = false ∧ r.tryRead b n = r.readNext b n) := by
  unfold tryRead
  rw [if_neg (Bool.eq_false_iff.mp h), streamFailure_none hf]
  simp only [if_neg hn]
  by_cases hh : r.head = []
  · rw [if_neg (not_not_intro hh)]
    right
    by_cases hd : r.finished = true
    · rw [if_pos hd]
      exact .inl ⟨hh, hd, rfl⟩
    · rw [if_neg hd]
      exact .inr ⟨hh, Bool.eq_false_iff.mpr hd, rfl⟩
  · rw [if_pos hh]
    exact .inl ⟨hh, rfl⟩

/-- A reading that wakes while no failure is recorded. -/
theorem wake_cases (hf : b.failure = none) (n : Nat) (i : Bool) :
    ((r.watching && i) = true ∧ r.wake b n i = (.failed .streamInterrupted, r, b)) ∨
    r.wake b n i = r.readNext b n := by
  unfold wake
  rw [streamFailure_none hf]
  by_cases hi : (r.watching && i) = true
  · exact .inl ⟨hi, if_pos hi⟩
  · exact .inr (if_neg hi)

/-- Once the end was reached a reading changes nothing. -/
theorem tryRead_of_finished (h : r.closed = false) (hh : r.head = []) (hd : r.finished = true)
    (n : Nat) :
    (r.tryRead b n).2 = (r, b) ∧ (b.failure = none → r.tryRead b n = (.bytes [], r, b)) := by
  rcases hf : b.failure with _ | e
  · have he : r.tryRead b n = (.bytes [], r, b) := by
      by_cases hn : n = 0
      · rw [hn, tryRead_zero h hf]
      · rcases tryRead_cases h hf hn with ⟨hh', -⟩ | ⟨-, -, he⟩ | ⟨-, hd', -⟩
        · exact absurd hh hh'
        · exact he
        · rw [hd] at hd'
          cases hd'
    rw [he]
    exact ⟨rfl, fun _ => rfl⟩
  · rw [tryRead_of_failure h hf]
    exact ⟨rfl, nofun⟩

/-- A reading that has to wait found the queue empty. -/
theorem readNext_blocked (h : (r.readNext b n).1 = .blocked) :
    b.queue.items = [] ∧ (r.readNext b n).2 = (r, b) := by
  unfold readNext Bridge.take at h ⊢
  rcases b.queue.take_cases with ⟨c | _, rest, -, ht⟩ | ⟨hi, ht⟩ | ⟨-, ht⟩ <;> rw [ht] at h ⊢
  · cases h
  · cases h
  · exact ⟨hi, rfl⟩
  · cases h

/-- A reading that has to wait asked an open reader for at least one byte, with nothing at hand and
before the end. -/
theorem tryRead_blocked (h : (r.tryRead b n).1 = .blocked) :
    n ≠ 0 ∧ r.closed = false ∧ r.head = [] ∧ r.finished = false ∧ b.queue.items = [] ∧
      (r.tryRead b n).2 = (r, b) := by
  have hc : r.closed = false := by
    rw [Bool.eq_false_iff]
    intro hc
    rw [tryRead_of_closed hc] at h
    cases h
  have hf : b.failure = none := by
    rcases hf : b.failure with _ | e
    · rfl
    · rw [tryRead_of_failure hc hf] at h
      cases h
  have hn : n ≠ 0 := by
    rintro rfl
    rw [tryRead_zero hc hf] at h
    cases h
  rcases tryRead_cases hc hf hn with ⟨-, he⟩ | ⟨-, -, he⟩ | ⟨hh, hd, he⟩
  · rw [he] at h
    cases h
  · rw [he] at h
    cases h
  · rw [he] at h ⊢
    exact ⟨hn, hc, hh, hd, readNext_blocked h⟩

/-- A reading that wakes and goes on waiting changes nothing. -/
theorem wake_blocked {i : Bool} (h : (r.wake b n i).1 = .blocked) : (r.wake b n i).2 = (r, b) := by
  rcases hf : b.failure with _ | e
  · rcases wake_cases hf n i with ⟨-, he⟩ | he
    · rw [he] at h
      cases h
    · rw [he] at h ⊢
      exact (readNext_blocked h).2
  · rw [wake_of_failure hf] at h
    cases h

/-- A reading neither closes a reader nor opens one. -/
theorem readNext_closed (r : Reader) (b : Bridge) (n : Nat) :
    (r.readNext b n).2.1.closed = r.closed := by
  unfold readNext
  split <;> rfl

theorem tryRead_closed (r : Reader) (b : Bridge) (n : Nat) :
    (r.tryRead b n).2.1.closed = r.closed := by
  unfold tryRead
  split
  · rfl
  split
  · rfl
  split
  · rfl
  split
  · rfl
  split
  · rfl
  exact r.readNext_closed b n

theorem wake_closed (r : Reader) (b : Bridge) (n : Nat) (i : Bool) :
    (r.wake b n i).2.1.closed = r.closed := by
  unfold wake
  split
  · rfl
  split
  · rfl
  exact r.readNext_closed b n

end Reader

end ResultFlow
