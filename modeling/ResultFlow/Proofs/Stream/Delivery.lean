import ResultFlow.Proofs.Stream.Reading

/-!
# Delivery

Bytes pass from the producer through the queue and the chunk at hand to the caller. `Intact` says
that these places together hold what was told, in order, and that the end marker stands behind the
last chunk. What the producer tells keeps it (`Intact.next`, `Intact.finish`), and so does a reading
of an open reader when it begins (`Intact.tryRead`) and when it wakes (`Intact.wake`), because one
place takes over from the next.
-/

namespace ResultFlow

/-! ## Accounts -/

/-- The bytes that a reading hands out. -/
def Reading.received : Reading → Bytes
  | .bytes out => out
  | .failed _ | .blocked => []

/-- What went into a stream and came out of it. -/
structure Account where
  /-- The bytes that the producer told before the end. -/
  offered : Bytes := []
  /-- Whether the producer told the end. -/
  ended : Bool := false
  /-- The bytes that were read. -/
  received : Bytes := []

namespace Account

/-- The producer told a chunk. -/
def next (a : Account) (bytes : Bytes) : Account :=
  { a with offered := if a.ended then a.offered else a.offered ++ bytes }

/-- The producer told the end. -/
def finish (a : Account) : Account := { a with ended := true }

/-- The caller got bytes. -/
def receive (a : Account) (bytes : Bytes) : Account := { a with received := a.received ++ bytes }

@[simp] theorem receive_nil (a : Account) : a.receive [] = a := by
  rw [receive, List.append_nil]

theorem next_of_ended {a : Account} (h : a.ended = true) (bytes : Bytes) : a.next bytes = a := by
  rw [next, if_pos h]

theorem next_of_not_ended {a : Account} (h : a.ended = false) (bytes : Bytes) :
    a.next bytes = { a with offered := a.offered ++ bytes } := by
  rw [next, if_neg (Bool.eq_false_iff.mp h)]

end Account

/-! ## The end marker -/

/-- The bytes that wait in a queue. -/
def Queue.bytes (q : Queue) : Bytes := q.items.flatMap (·.bytes)

/-- The items are chunks, with an end marker behind them if `ends`. -/
def Marked : List Item → Bool → Prop
  | [], ends => ends = false
  | .chunk _ :: rest, ends => Marked rest ends
  | .finish :: rest, ends => ends = true ∧ rest = []

theorem Marked.append_chunk {items : List Item} (h : Marked items false) (c : Chunk) :
    Marked (items ++ [.chunk c]) false := by
  induction items with
  | nil => exact rfl
  | cons i rest ih =>
    cases i with
    | chunk _ => exact ih h
    | finish => exact absurd h.1 Bool.false_ne_true

theorem Marked.append_finish {items : List Item} (h : Marked items false) :
    Marked (items ++ [.finish]) true := by
  induction items with
  | nil => exact ⟨rfl, rfl⟩
  | cons i rest ih =>
    cases i with
    | chunk _ => exact ih h
    | finish => exact absurd h.1 Bool.false_ne_true

/-! ## Nothing is lost on the way -/

/-- What was read, the chunk at hand and the queue make up what was told. -/
structure Intact (a : Account) (r : Reader) (q : Queue) : Prop where
  bytes : a.received ++ (r.head ++ q.bytes) = a.offered
  told : q.finished = a.ended
  marked : Marked q.items (a.ended && !r.finished)
  /-- Nothing follows the end. -/
  last : r.finished = true → a.ended = true ∧ r.head = [] ∧ q.items = []
  accepting : q.closed = false
  attended : q.abandoned = false

namespace Intact

variable {a : Account} {r r' : Reader} {q : Queue} {b : Bridge}

theorem start (info : ObjectInfo) : Intact {} { info } {} where
  bytes := rfl
  told := rfl
  marked := rfl
  last := nofun
  accepting := rfl
  attended := rfl

/-- Only the chunk at hand and the end matter of a reader. -/
theorem of_reader (h : Intact a r q) (hh : r'.head = r.head) (hd : r'.finished = r.finished) :
    Intact a r' q where
  bytes := hh ▸ h.bytes
  told := h.told
  marked := hd ▸ h.marked
  last := by
    rw [hd, hh]
    exact h.last
  accepting := h.accepting
  attended := h.attended

theorem not_finished (h : Intact a r q) (he : a.ended = false) : r.finished = false := by
  rw [Bool.eq_false_iff]
  intro hd
  exact Bool.false_ne_true (he.symm.trans (h.last hd).1)

/-- What was read is the beginning of what was told. -/
theorem received_isPrefix (h : Intact a r q) : a.received <+: a.offered := ⟨_, h.bytes⟩

/-- At the end everything was read. -/
theorem received_eq (h : Intact a r q) (hd : r.finished = true) : a.received = a.offered := by
  obtain ⟨-, hh, hi⟩ := h.last hd
  rw [← h.bytes, hh, Queue.bytes, hi]
  exact (List.append_nil _).symm

/-- With nothing at hand and nothing queued, the end is not told or it was reached. -/
theorem ended_of_empty (h : Intact a r q) (hi : q.items = []) (hd : r.finished = false) :
    a.ended = false := by
  have hm := h.marked
  rw [hi, hd, Bool.not_false, Bool.and_true] at hm
  exact hm

/-! ### What the producer tells -/

/-- A chunk goes to the end of the queue, unless it is empty or comes too late. -/
theorem next (h : Intact a r q) (bytes : Bytes) : Intact (a.next bytes) r (q.push bytes).2 := by
  by_cases he : a.ended = true
  · rw [Account.next_of_ended he, Queue.push, dif_neg (fun hp => by simp [h.told, he] at hp)]
    exact h
  have he := Bool.eq_false_iff.mpr he
  rw [Account.next_of_not_ended he]
  by_cases hb : bytes = []
  · rw [Queue.push, dif_neg (fun hp => hp.1 hb), hb, List.append_nil]
    exact h
  have hq : (q.push bytes).2 = { q with items := q.items ++ [.chunk ⟨bytes, hb⟩] } := by
    rw [Queue.push, dif_pos ⟨hb, h.told.trans he, h.accepting⟩]
  rw [hq]
  have hm := h.marked
  rw [he] at hm
  exact {
    bytes := by
      rw [← h.bytes]
      simp [Queue.bytes, Item.bytes]
    told := h.told
    marked := by
      show Marked (q.items ++ [_]) (a.ended && !r.finished)
      rw [he]
      exact hm.append_chunk _
    last := fun hd => absurd ((h.not_finished he).symm.trans hd) Bool.false_ne_true
    accepting := h.accepting
    attended := h.attended }

/-- The end marker goes behind the last chunk, once. -/
theorem finish (h : Intact a r q) : Intact a.finish r q.finish.2 := by
  by_cases he : a.ended = true
  · have ha : a.finish = a := by rw [Account.finish, ← he]
    rw [ha, Queue.finish, if_pos (h.told.trans he)]
    exact h
  have he := Bool.eq_false_iff.mpr he
  have hd := h.not_finished he
  have hm := h.marked
  rw [he] at hm
  have hq : q.finish.2 = { q with finished := true, items := q.items ++ [.finish] } := by
    simp only [Queue.finish, h.told, he, h.accepting, Bool.false_eq_true, if_false]
  rw [hq]
  exact {
    bytes := by
      show a.received ++ (r.head ++ List.flatMap _ (_ ++ _)) = a.offered
      rw [← h.bytes]
      simp [Queue.bytes, Item.bytes]
    told := rfl
    marked := by
      show Marked (q.items ++ [.finish]) (true && !r.finished)
      rw [hd]
      exact hm.append_finish
    last := fun hd' => absurd (hd.symm.trans hd') Bool.false_ne_true
    accepting := h.accepting
    attended := h.attended }

/-! ### What a reading hands out -/

/-- Part of the chunk at hand goes to the caller. -/
theorem split (h : Intact a r q) (hd : r.finished = false) (n : Nat) :
    Intact (a.receive (r.head.take n)) { r with head := r.head.drop n } q where
  bytes := by
    show a.received ++ r.head.take n ++ (r.head.drop n ++ q.bytes) = a.offered
    rw [List.append_assoc, ← List.append_assoc (r.head.take n), List.take_append_drop]
    exact h.bytes
  told := h.told
  marked := h.marked
  last := fun hd' => absurd (hd.symm.trans hd') Bool.false_ne_true
  accepting := h.accepting
  attended := h.attended

/-- The first chunk of the queue comes to hand. -/
theorem chunk (h : Intact a r q) (hh : r.head = []) (hd : r.finished = false) {c : Chunk}
    {rest : List Item} (hi : q.items = .chunk c :: rest) :
    Intact a { r with head := c.val } { q with items := rest } where
  bytes := by
    have hb := h.bytes
    rw [hh, Queue.bytes, hi] at hb
    exact hb
  told := h.told
  marked := by
    have hm := h.marked
    rw [hi] at hm
    exact hm
  last := fun hd' => absurd (hd.symm.trans hd') Bool.false_ne_true
  accepting := h.accepting
  attended := h.attended

/-- The end marker was the last item. -/
theorem reachEnd (h : Intact a r q) (hh : r.head = []) {rest : List Item}
    (hi : q.items = .finish :: rest) :
    Intact a { r with finished := true } { q with items := rest } := by
  have hm := h.marked
  rw [hi] at hm
  obtain ⟨hd, rfl⟩ := hm
  rw [Bool.and_eq_true] at hd
  have hb := h.bytes
  rw [Queue.bytes, hi] at hb
  exact {
    bytes := hb
    told := h.told
    marked := by
      show (a.ended && !true) = false
      rw [Bool.not_true, Bool.and_false]
    last := fun _ => ⟨hd.1, hh, rfl⟩
    accepting := h.accepting
    attended := h.attended }

/-- What is taken from the queue is passed on. -/
theorem readNext (h : Intact a r b.queue) (hh : r.head = []) (hd : r.finished = false) (n : Nat) :
    Intact (a.receive (r.readNext b n).1.received) (r.readNext b n).2.1
      (r.readNext b n).2.2.queue := by
  rcases Reader.readNext_cases h.accepting h.attended r n with ⟨-, he⟩ | ⟨c, rest, hi, he⟩ |
    ⟨rest, hi, he⟩
  · rw [he]
    exact a.receive_nil.symm ▸ h
  · rw [he, Bridge.consume_queue]
    exact (h.chunk hh hd hi).split hd n
  · rw [he]
    exact a.receive_nil.symm ▸ h.reachEnd hh hi

/-- A reading that begins passes on what it takes. -/
theorem tryRead (h : Intact a r b.queue) (hc : r.closed = false) (n : Nat) :
    Intact (a.receive (r.tryRead b n).1.received) (r.tryRead b n).2.1 (r.tryRead b n).2.2.queue := by
  rcases hf : b.failure with _ | e
  · by_cases hn : n = 0
    · rw [hn, Reader.tryRead_zero hc hf]
      exact a.receive_nil.symm ▸ h
    rcases Reader.tryRead_cases hc hf hn with ⟨hh, he⟩ | ⟨-, -, he⟩ | ⟨hh, hd, he⟩
    · rw [he]
      exact h.split (Bool.eq_false_iff.mpr fun hd => hh (h.last hd).2.1) n
    · rw [he]
      exact a.receive_nil.symm ▸ h
    · rw [he]
      exact h.readNext hh hd n
  · rw [Reader.tryRead_of_failure hc hf]
    exact a.receive_nil.symm ▸ h

/-- A reading that wakes, with nothing at hand, passes on what it takes. -/
theorem wake (h : Intact a r b.queue) (hh : r.head = []) (hd : r.finished = false) (n : Nat)
    (i : Bool) :
    Intact (a.receive (r.wake b n i).1.received) (r.wake b n i).2.1 (r.wake b n i).2.2.queue := by
  rcases hf : b.failure with _ | e
  · rcases Reader.wake_cases hf n i with ⟨-, he⟩ | he
    · rw [he]
      exact a.receive_nil.symm ▸ h
    · rw [he]
      exact h.readNext hh hd n
  · rw [Reader.wake_of_failure hf]
    exact a.receive_nil.symm ▸ h

theorem take_of_ne_nil {head : Bytes} {n : Nat} (hn : n ≠ 0) (hh : head ≠ []) :
    head.take n ≠ [] ∧ (head.take n).length ≤ n :=
  ⟨fun ht => (List.take_eq_nil_iff.mp ht).elim hn hh, List.length_take_le ..⟩

/-- What a reading of `n` bytes finds: some bytes, or the end of all that was told, or nothing
anywhere. -/
inductive Finds (a : Account) (r : Reader) (b : Bridge) (n : Nat) :
    Reading × Reader × Bridge → Prop
  | bytes {out : Bytes} {r' : Reader} {b' : Bridge} (some : out ≠ []) (fits : out.length ≤ n) :
    Finds a r b n (.bytes out, r', b')
  | ended {r' : Reader} {b' : Bridge} (ended : a.ended = true) (all : a.received = a.offered)
    (head : r'.head = []) (finished : r'.finished = true) : Finds a r b n (.bytes [], r', b')
  | nothing (nothing : r.head ++ b.queue.bytes = []) (more : a.ended = false) :
    Finds a r b n (.blocked, r, b)

/-- With nothing at hand, a look into the queue finds all there is. -/
theorem readNext_finds (h : Intact a r b.queue) (hh : r.head = []) (hd : r.finished = false)
    {n : Nat} (hn : n ≠ 0) : Finds a r b n (r.readNext b n) := by
  rcases Reader.readNext_cases h.accepting h.attended r n with ⟨hi, he⟩ | ⟨c, rest, -, he⟩ |
    ⟨rest, hi, he⟩ <;> rw [he]
  · refine .nothing ?_ (h.ended_of_empty hi hd)
    rw [hh, Queue.bytes, hi]
    rfl
  · exact .bytes (take_of_ne_nil hn c.property).1 (take_of_ne_nil hn c.property).2
  · have hend := h.reachEnd hh hi
    exact .ended (hend.last rfl).1 (hend.received_eq rfl) hh rfl

theorem tryRead_finds (h : Intact a r b.queue) (hc : r.closed = false) (hf : b.failure = none)
    {n : Nat} (hn : n ≠ 0) : Finds a r b n (r.tryRead b n) := by
  rcases Reader.tryRead_cases hc hf hn with ⟨hh, he⟩ | ⟨hh, hd, he⟩ | ⟨hh, hd, he⟩ <;> rw [he]
  · exact .bytes (take_of_ne_nil hn hh).1 (take_of_ne_nil hn hh).2
  · exact .ended (h.last hd).1 (h.received_eq hd) hh hd
  · exact h.readNext_finds hh hd hn

end Intact

end ResultFlow
