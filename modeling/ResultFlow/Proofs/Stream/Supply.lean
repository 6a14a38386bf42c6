import ResultFlow.Proofs.Stream.Demand
import ResultFlow.Proofs.Stream.Session

/-!
# Supplies

A supply is a session together with what its producer delivered. The producer subscribes once and
tells a chunk only while some of the demand that was sent is not used up; a demand for all chunks is
never used up. Producer and reader act in any order. `Session.step_cases` says everything that an
action can do to the counters and the demand: nothing, the first demand, a chunk that arrives, or a
chunk that is taken.
-/

namespace ResultFlow

/-- The number of chunks that a signal asks for. -/
def Signal.amount? : Signal → Option Nat
  | request _ chunks => some chunks
  | cancel _ => none

/-- The number of chunks that demands ask for in all. -/
def totalDemand : List Nat → Nat
  | [] => 0
  | n :: demands => n + totalDemand demands

theorem totalDemand_append (demands : List Nat) (demand : Option Nat) :
    totalDemand (demands ++ demand.toList) = totalDemand demands + demand.getD 0 := by
  induction demands with
  | nil => cases demand <;> simp [totalDemand]
  | cons n demands ih =>
    rw [List.cons_append, totalDemand, totalDemand, ih, Nat.add_assoc]

namespace Bridge

variable {b : Bridge}

/-- The demands that were sent, in order. -/
def demands (b : Bridge) : List Nat := b.signals.filterMap Signal.amount?

/-- Nothing ended the stream: it was not given up, it is not complete, and it did not fail. -/
structure Live (b : Bridge) : Prop where
  wanted : b.released = false
  running : b.complete = false
  calm : b.failure = none

/-- On the way from `b` to `b'` nothing was asked for, delivered or taken. -/
structure Rests (b b' : Bridge) : Prop where
  flow : b'.flow = b.flow
  demands : b'.demands = b.demands
  response : ∀ info, b.response = some info → b'.response = some info
  /-- A subscription does not come up. -/
  unsubscribed : b.subscription = none → b'.subscription = none
  live : b'.Live → b.Live ∧ b'.subscription = b.subscription
  /-- What is live kept its queue. -/
  queue : b'.Live → b'.queue.size = b.queue.size ∧ b'.queue.finished = b.queue.finished ∧
    b'.queue.closed = b.queue.closed

/-- On the way from `b` to `b'` the first chunk was taken from the queue. -/
def Takes (b b' : Bridge) : Prop :=
  ∃ c rest, b.queue.items = .chunk c :: rest ∧
    b' = ({ b with queue := { b.queue with items := rest } }).consume c.val.length

theorem Rests.refl (b : Bridge) : b.Rests b where
  flow := rfl
  demands := rfl
  response _ h := h
  unsubscribed h := h
  live h := ⟨h, rfl⟩
  queue _ := ⟨rfl, rfl, rfl⟩

/-! ## What goes out -/

theorem demands_send (b : Bridge) (s : Signal) :
    (b.send s).demands = b.demands ++ (s.amount?).toList := by
  unfold demands send
  rw [List.filterMap_append]
  cases h : s.amount? <;> simp [h]

/-- Demand goes out unless nothing more is wanted or nobody is subscribed. -/
theorem demands_request (b : Bridge) (n : Nat) :
    (b.request n).demands =
      if b.released = false ∧ b.subscription.isSome = true then b.demands ++ [n]
      else b.demands := by
  unfold request
  by_cases hr : b.released = true
  · rw [if_pos hr, if_neg (by simp [hr])]
  · rw [if_neg hr]
    cases hs : b.subscription with
    | none => simp
    | some s =>
      rw [if_pos ⟨Bool.eq_false_iff.mpr hr, rfl⟩]
      exact demands_send ..

theorem demands_withFlow (b : Bridge) (demand : Option Nat) (flow : Flow) :
    (b.withFlow demand flow).demands =
      if b.released = false ∧ b.subscription.isSome = true then b.demands ++ demand.toList
      else b.demands := by
  cases demand with
  | none =>
    rw [Option.toList_none, List.append_nil, ite_self, withFlow]
    rfl
  | some n => exact demands_request ..

theorem demands_next (b : Bridge) (bytes : Bytes) :
    (b.next bytes).demands =
      if b.released = false ∧ b.subscription.isSome = true then
        b.demands ++ (b.flow.chunk bytes.length).1.toList
      else b.demands := demands_withFlow ..

theorem demands_consume (b : Bridge) (size : Nat) :
    (b.consume size).demands =
      if b.released = false ∧ b.subscription.isSome = true then
        b.demands ++ (b.flow.consumed size).1.toList
      else b.demands := demands_withFlow ..

/-- What the first demand changes. -/
theorem subscribe_eq (hr : b.released = false) (name : String) : ∃ events signals,
    b.subscribe name = { b with
      flow := (b.flow.subscribe (b.response.bind (·.length))).2
      subscription := some name
      events
      signals } ∧
    (b.subscribe name).demands =
      b.demands ++ [(b.flow.subscribe (b.response.bind (·.length))).1] := by
  unfold subscribe
  rw [if_neg (Bool.eq_false_iff.mp hr)]
  exact ⟨_, _, rfl, demands_send ..⟩

theorem live_of_next {bytes : Bytes} (h : (b.next bytes).Live) : b.Live :=
  ⟨b.next_released bytes ▸ h.wanted, b.next_complete bytes ▸ h.running,
    b.next_failure bytes ▸ h.calm⟩

theorem live_of_takes {b' : Bridge} (ht : b.Takes b') (h : b'.Live) : b.Live := by
  obtain ⟨c, rest, -, rfl⟩ := ht
  exact ⟨by simpa using h.wanted, by simpa using h.running, by simpa using h.calm⟩

/-- A cancellation is no demand. -/
theorem demands_release (b : Bridge) : b.release.demands = b.demands := by
  unfold release
  split
  · rfl
  · split
    · exact (demands_send ..).trans (List.append_nil _)
    · rfl

theorem released_release (b : Bridge) : b.release.released = true := by
  obtain ⟨_, _, _, h⟩ := b.release_eq
  rw [h]

/-- What is given up is not live. -/
theorem rests_release {b' : Bridge} (hf : b'.flow = b.flow) (hd : b'.demands = b.demands)
    (hr : b'.response = b.response) (hs : b'.subscription = b.subscription) :
    b.Rests b'.release := by
  have hlive : ¬ b'.release.Live := fun h => by
    have := h.wanted
    rw [released_release] at this
    cases this
  obtain ⟨subscription, events, signals, he⟩ := b'.release_eq
  refine ⟨?_, (demands_release b').trans hd, ?_, ?_, fun h => absurd h hlive,
    fun h => absurd h hlive⟩
  · rw [he]
    exact hf
  · intro info h
    rw [he]
    exact hr.trans h
  · intro h
    unfold release
    split
    · exact hs.trans h
    · rw [hs.trans h]

theorem rests_log (b : Bridge) (e : Log.Event) : b.Rests (b.log e) where
  flow := rfl
  demands := rfl
  response _ h := h
  unsubscribed h := h
  live h := ⟨⟨h.wanted, h.running, h.calm⟩, rfl⟩
  queue _ := ⟨rfl, rfl, rfl⟩

theorem rests_answer (b : Bridge) (info : ObjectInfo) : b.Rests (b.answer info) where
  flow := rfl
  demands := rfl
  response first h := by
    show (b.response <|> some info) = some first
    rw [h]
    rfl
  unsubscribed h := h
  live h := ⟨⟨h.wanted, h.running, h.calm⟩, rfl⟩
  queue _ := ⟨rfl, rfl, rfl⟩

/-- A subscription that comes too late is cancelled. -/
theorem rests_subscribe (b : Bridge) (hr : b.released = true) (name : String) :
    b.Rests (b.subscribe name) := by
  unfold subscribe
  rw [if_pos hr]
  exact {
    flow := rfl
    demands := (demands_send ..).trans (List.append_nil _)
    response := fun _ h => h
    unsubscribed := fun h => h
    live := fun h => ⟨⟨h.wanted, h.running, h.calm⟩, rfl⟩
    queue := fun _ => ⟨rfl, rfl, rfl⟩ }

theorem rests_finish (b : Bridge) : b.Rests b.finish where
  flow := rfl
  demands := rfl
  response _ h := h
  unsubscribed h := h
  live h := Bool.noConfusion (h.running : true = false)
  queue h := Bool.noConfusion (h.running : true = false)

theorem rests_fail (b : Bridge) (cause : Error) : b.Rests (b.fail cause) := by
  unfold fail
  cases hf : b.failure with
  | some e => exact b.rests_log _
  | none => exact rests_release rfl rfl rfl rfl

theorem rests_drop (b : Bridge) (p : Prepared) : b.Rests (p.drop b) := by
  unfold Prepared.drop
  split
  · exact .refl b
  · exact rests_release rfl rfl rfl rfl

theorem rests_close (b : Bridge) (r : Reader) : b.Rests (r.close b).2 := by
  unfold Reader.close
  split
  · exact .refl b
  · split
    · exact .refl b
    · exact rests_release rfl rfl rfl rfl

end Bridge

/-! ## What an action does to the demand -/

/-- A reading takes a chunk from the queue or leaves the counters alone. -/
theorem Bridge.Reads.rests_or_takes {b b' : Bridge} (h : b.Reads b') : b.Rests b' ∨ b.Takes b' := by
  cases h with
  | nothing => exact .inl (.refl b)
  | chunk hi => exact .inr ⟨_, _, hi, rfl⟩
  | @finish rest hi =>
    -- the end marker has no bytes
    refine .inl ⟨rfl, rfl, fun _ h => h, fun h => h,
      fun h => ⟨⟨h.wanted, h.running, h.calm⟩, rfl⟩, fun _ => ⟨?_, rfl, rfl⟩⟩
    show Queue.size { b.queue with items := rest } = b.queue.size
    unfold Queue.size
    rw [hi]
    rfl
  | left => exact .inl (b.rests_log _)

namespace Session

namespace Action

/-- The chunk that an action tells. -/
def chunk? : Action → Option Bytes
  | next bytes => some bytes
  | answer _ | subscribe _ | finish | fail _ | poll _ | drop | watch | read _ | readByte | wake
  | available | close | interrupt => none

def subscribes : Action → Bool
  | subscribe _ => true
  | answer _ | next _ | finish | fail _ | poll _ | drop | watch | read _ | readByte | wake
  | available | close | interrupt => false

end Action

variable {s : Session}

/-- An action leaves the counters alone, or it is the first demand, or a chunk arrives, or a chunk
is taken from the queue. -/
theorem step_cases (s : Session) (a : Action) :
    (s.bridge.Rests (s.step a).bridge ∧ a.chunk? = none ∧
      (a.subscribes = true → s.bridge.released = true)) ∨
    (∃ name, a = .subscribe name ∧ s.bridge.released = false ∧
      (s.step a).bridge = s.bridge.subscribe name) ∨
    (∃ bytes, a = .next bytes ∧ (s.step a).bridge = s.bridge.next bytes) ∨
    (s.bridge.Takes (s.step a).bridge ∧ a.chunk? = none ∧ a.subscribes = false) := by
  by_cases ha : a.reads = true
  · have hsame : a.chunk? = none ∧ a.subscribes = false := by
      cases a with
      | read | readByte | wake => exact ⟨rfl, rfl⟩
      | _ => cases ha
    rcases (s.reads_step ha).rests_or_takes with h | h
    · exact .inl ⟨h, hsame.1, fun hs => absurd (hsame.2.symm.trans hs) Bool.false_ne_true⟩
    · exact .inr (.inr (.inr ⟨h, hsame⟩))
  cases a with
  | answer info => exact .inl ⟨s.bridge.rests_answer info, rfl, nofun⟩
  | subscribe name =>
    cases hr : s.bridge.released with
    | false => exact .inr (.inl ⟨name, rfl, rfl, rfl⟩)
    | true => exact .inl ⟨s.bridge.rests_subscribe hr name, rfl, fun _ => rfl⟩
  | next bytes => exact .inr (.inr (.inl ⟨bytes, rfl, rfl⟩))
  | finish => exact .inl ⟨s.bridge.rests_finish, rfl, nofun⟩
  | fail cause => exact .inl ⟨s.bridge.rests_fail cause, rfl, nofun⟩
  | poll watching =>
    refine .inl ⟨?_, rfl, nofun⟩
    rcases s.step_poll_cases watching with ⟨info, -, -, he⟩ | ⟨prepared, -, he⟩ <;> rw [he]
    · exact .refl _
    · exact .refl _
  | drop => exact .inl ⟨s.bridge.rests_drop s.prepared, rfl, nofun⟩
  | watch => exact .inl ⟨onReader_bridge _ (.refl _) fun _ => .refl _, rfl, nofun⟩
  | read | readByte | wake => exact absurd rfl ha
  | available => exact .inl ⟨.refl _, rfl, nofun⟩
  | close => exact .inl ⟨onReader_bridge _ (.refl _) fun r => s.bridge.rests_close r, rfl, nofun⟩
  | interrupt => exact .inl ⟨.refl _, rfl, nofun⟩

end Session

/-! ## Supplies -/

/-- A session with what its producer delivered. -/
structure Supply where
  session : Session
  /-- The chunks that were told, in order, empty ones among them. -/
  told : List Bytes := []
  /-- Whether the producer subscribed. -/
  subscribed : Bool := false

namespace Supply

variable {s : Supply}

def bridge (s : Supply) : Bridge := s.session.bridge

/-- A supply to which no producer came yet. -/
def start (settings : StreamSettings) : Supply := { session := .start settings }

def step (s : Supply) (a : Session.Action) : Supply where
  session := s.session.step a
  told := s.told ++ a.chunk?.toList
  subscribed := s.subscribed || a.subscribes

def run (s : Supply) (actions : List Session.Action) : Supply := actions.foldl step s

/-- The number of chunks that were asked for. -/
def asked (s : Supply) : Nat := totalDemand s.bridge.demands

/-- Some of the demand is not used up. A demand for all chunks never is. -/
def HasDemand (s : Supply) : Prop :=
  Flow.allChunks ∈ s.bridge.demands ∨ s.told.length < s.asked

/-- The producer tells a chunk only for demand, and subscribes once. -/
def Allows (s : Supply) : Session.Action → Prop
  | .next _ => s.HasDemand
  | .subscribe _ => s.subscribed = false
  | .answer _ | .finish | .fail _ | .poll _ | .drop | .watch | .read _ | .readByte | .wake
  | .available | .close | .interrupt => True

/-- Every action of a run is allowed when it comes. -/
def Keeps : Supply → List Session.Action → Prop
  | _, [] => True
  | s, a :: actions => s.Allows a ∧ (s.step a).Keeps actions

instance (s : Supply) : Decidable s.HasDemand :=
  inferInstanceAs (Decidable (_ ∈ _ ∨ _ < _))

instance (s : Supply) (a : Session.Action) : Decidable (s.Allows a) :=
  match a with
  | .next _ => inferInstanceAs (Decidable s.HasDemand)
  | .subscribe _ => inferInstanceAs (Decidable (s.subscribed = false))
  | .answer _ | .finish | .fail _ | .poll _ | .drop | .watch | .read _ | .readByte | .wake
  | .available | .close | .interrupt => .isTrue trivial

instance decidableKeeps (s : Supply) (actions : List Session.Action) :
    Decidable (s.Keeps actions) :=
  match actions with
  | [] => .isTrue trivial
  | a :: actions =>
    have := decidableKeeps (s.step a) actions
    inferInstanceAs (Decidable (_ ∧ _))

theorem told_step {a : Session.Action} (h : a.chunk? = none) : (s.step a).told = s.told := by
  rw [step, h, Option.toList_none, List.append_nil]

/-- Before the first demand no chunk is told. -/
theorem not_hasDemand (h : s.bridge.demands = []) : ¬ s.HasDemand := by
  simp [HasDemand, asked, totalDemand, h]

/-- What every allowed action of a run keeps holds after the run. -/
theorem run_induction {P : Supply → Prop} {actions : List Session.Action}
    (step : ∀ s, ∀ a ∈ actions, s.Allows a → P s → P (s.step a)) (start : P s)
    (h : s.Keeps actions) : P (s.run actions) := by
  induction actions generalizing s with
  | nil => exact start
  | cons a actions ih =>
    exact ih (fun s b hb => step s b (List.mem_cons_of_mem a hb))
      (step s a List.mem_cons_self h.1 start) h.2

end Supply

end ResultFlow
