import ResultFlow.Http.Download
import ResultFlow.Proofs.Stream.Demand
import ResultFlow.Proofs.Stream.Exact

/-!
# Transfers

A transfer is the download of an object over a bridge: a task that tells the answer of the store,
subscribes, and then takes a permit for each piece of the body and for its end; and a reader that
acts between any two of its steps. No schedule of the two gets stuck, and what is read up to the end
is the body (`never_stuck`).

1. The demand that an action sends is brought to the producer (`act_eq`).
2. `Coupled` ties the bridge to the producer: what was told and what is ahead make up the body, and
   the buffered bytes are those of the queue. `Task.Fits` adds that the demand is balanced.
3. Every step of the task and every action of the reader keeps both (`Running.step`).
-/

namespace ResultFlow

open Http (Download Response)

/-- The action that a callback is. -/
def Callback.action : Callback → Session.Action
  | next bytes => .next bytes
  | finish => .finish
  | fail cause => .fail cause

/-- How far the task of a transfer is. -/
inductive Task
  | opening
  | answered
  | pumping
  deriving DecidableEq

/-- A download with its reader. -/
structure Transfer where
  transcript : Transcript
  /-- What the store says of the object. -/
  info : ObjectInfo
  task : Task := .opening
  producer : Producer

namespace Transfer

/-- A step of the task, or an action of the reader. -/
inductive Move
  | pump
  | poll (watching : Bool)
  | watch
  | read (n : Nat)
  | readByte
  | wake
  | available
  | interrupt
  deriving DecidableEq

def bridge (t : Transfer) : Bridge := t.transcript.session.bridge

/-- An answer on its way to a bridge that nobody opened yet. -/
def start {τ : Type} (settings : StreamSettings) (d : Download τ) (url : String) (r : Response) :
    Transfer where
  transcript := .start settings
  info := Download.infoOf r
  producer := d.producerOf url r

/-- The feed of a producer over a bridge. -/
def feed (b : Bridge) (p : Producer) : Feed :=
  { bridge := b, producers := [(Download.subscription, p)] }

/-- An action, after which the producer hears of the demand. -/
def act (t : Transfer) (a : Session.Action) : Transfer :=
  let next := t.transcript.step a
  let told := ((feed t.bridge t.producer).follow next.session.bridge).find? Download.subscription
  { t with transcript := next, producer := told.getD t.producer }

/-- The producer takes a permit, if there is one. -/
def acquire (t : Transfer) : Transfer :=
  { t with producer := t.producer.acquire?.getD t.producer }

/-- The producer uses its permit. -/
def deliver (t : Transfer) : Transfer :=
  match t.producer.deliver? with
  | some (c, p) => { t with producer := p }.act c.action
  | none => t

/-- The next step of the task, if it need not wait. -/
def pump (t : Transfer) : Transfer :=
  match t.task with
  | .opening => { t.act (.answer t.info) with task := .answered }
  | .answered => { t.act (.subscribe Download.subscription) with task := .pumping }
  | .pumping => if t.producer.holding then t.deliver else t.acquire

def step (t : Transfer) : Move → Transfer
  | .pump => t.pump
  | .poll watching => t.act (.poll watching)
  | .watch => t.act .watch
  | .read n => t.act (.read n)
  | .readByte => t.act .readByte
  | .wake => t.act .wake
  | .available => t.act .available
  | .interrupt => t.act .interrupt

def run (t : Transfer) (moves : List Move) : Transfer := moves.foldl step t

/-- A reading finds nothing and waits when it begins, or it waits and finds nothing to take. -/
def ReaderWaits (t : Transfer) : Prop :=
  (∃ n, t.transcript.session.reading (.read n) = some .blocked) ∨
    (t.transcript.session.parked ≠ none ∧ t.bridge.take.1 = none)

/-- The task waits for demand. -/
def PumpWaits (t : Transfer) : Prop :=
  t.task = .pumping ∧ t.producer.stopped = false ∧ t.producer.acquire? = none

end Transfer

/-! ## What reaches the producer -/

/-- The producer after demand, if there is any. -/
def Producer.grant (p : Producer) (demand : Option Nat) : Producer :=
  { p with permits := p.permits.grant demand }

theorem Transfer.find?_follow {b b' : Bridge} {p : Producer} {demand : Option Nat}
    (h : b'.signals = b.signals ++ (demand.map (.request Download.subscription)).toList) :
    ((feed b p).follow b').find? Download.subscription = some (p.grant demand) := by
  have hd : b'.signals.drop b.signals.length =
      (demand.map (.request Download.subscription)).toList := by
    rw [h, List.drop_left]
  show ((b'.signals.drop b.signals.length).foldl Feed.signal
    (feed b' p)).find? Download.subscription = _
  rw [hd]
  cases demand with
  | none => rfl
  | some n =>
    show List.lookup Download.subscription [(Download.subscription,
      if Download.subscription = Download.subscription then p.request n else p)] = _
    rw [if_pos rfl, List.lookup_cons_self]
    rfl

/-! ## The bridge and its producer -/

/-- What was told and what is ahead make up the body, the two sides agree on the end, and the
counters know what the queue holds. -/
structure Coupled (s : StreamSettings) (body : Bytes) (a : Account) (b : Bridge) (p : Producer) :
    Prop where
  settings : b.flow.settings = s
  calm : b.failure = none
  wanted : b.released = false
  buffered : b.flow.buffered = b.queue.size
  whole : a.offered ++ p.ahead.flatten = body
  ended : a.ended = p.stopped
  complete : b.complete = p.stopped
  last : p.stopped = true → p.ahead = []
  faultless : p.fault = none
  heeded : p.permits.closed = false

/-- What a task needs to know: nothing happened before the subscription, and the demand is balanced
from then on. -/
def Task.Fits : Task → Bridge → Producer → Prop
  | .pumping, b, p => b.subscription = some Download.subscription ∧
      (p.stopped = false → Balanced b.flow p.permits p.holding.toNat)
  | .opening, b, p | .answered, b, p => b.subscription = none ∧ b.queue.items = [] ∧
      b.flow.unbounded = false ∧ p.permits = {} ∧ p.holding = false

namespace Coupled

variable {s : StreamSettings} {body : Bytes} {a : Account} {b : Bridge} {p : Producer}

/-- Only some of the state of the bridge matters. -/
theorem of_bridge (h : Coupled s body a b p) (b' : Bridge) (hf : b'.flow = b.flow)
    (hq : b'.queue.size = b.queue.size) (hr : b'.released = b.released)
    (hc : b'.complete = b.complete) (he : b'.failure = b.failure) : Coupled s body a b' p where
  settings := hf ▸ h.settings
  calm := he.trans h.calm
  wanted := hr.trans h.wanted
  buffered := by
    rw [hf, hq]
    exact h.buffered
  whole := h.whole
  ended := h.ended
  complete := hc.trans h.complete
  last := h.last
  faultless := h.faultless
  heeded := h.heeded

theorem receive (h : Coupled s body a b p) (out : Bytes) : Coupled s body (a.receive out) b p :=
  { h with }

theorem grant (h : Coupled s body a b p) (demand : Option Nat) :
    Coupled s body a b (p.grant demand) :=
  { h with heeded := (Permits.grant_closed demand).trans h.heeded }

theorem acquire (h : Coupled s body a b p) {q : Permits} (hq : p.permits.acquire? = some q) :
    Coupled s body a b { p with permits := q, holding := true } :=
  { h with heeded := (Permits.acquire?_closed hq).trans h.heeded }

/-- The first demand is sent. -/
theorem subscribe (h : Coupled s body a b p) (name : String) :
    Coupled s body a (b.subscribe name) p := by
  unfold Bridge.subscribe
  rw [if_neg (Bool.eq_false_iff.mp h.wanted)]
  exact { h with
    settings := (Flow.subscribe_settings ..).trans h.settings
    buffered := (Flow.subscribe_buffered ..).trans h.buffered }

/-- A piece of the body is told. -/
theorem next (h : Coupled s body a b p) (hq : b.queue.finished = false)
    (hc : b.queue.closed = false) (hs : p.stopped = false) {bytes : Bytes} {ahead : List Bytes}
    (ha : p.ahead = bytes :: ahead) :
    Coupled s body (a.next bytes) (b.next bytes)
      { p with ahead, holding := false, delivered := p.delivered + bytes.length } where
  settings := by
    rw [Bridge.next, Bridge.withFlow_flow, Flow.chunk, Flow.grant_settings]
    exact h.settings
  calm := (Bridge.next_failure ..).trans h.calm
  wanted := (Bridge.withFlow_released ..).trans h.wanted
  buffered := by
    rw [Bridge.next_queue, Queue.size_push hq hc, Bridge.next, Bridge.withFlow_flow, Flow.chunk,
      Flow.grant_buffered]
    show b.flow.buffered + bytes.length = _
    rw [h.buffered]
    rfl
  whole := by
    rw [Account.next_of_not_ended (h.ended.trans hs), ← h.whole, ha]
    simp
  ended := h.ended
  complete := (Bridge.next_complete ..).trans h.complete
  last := fun h' => Bool.noConfusion (hs.symm.trans h')
  faultless := h.faultless
  heeded := h.heeded

/-- The end of the body is told. -/
theorem finish (h : Coupled s body a b p) (ha : p.ahead = []) :
    Coupled s body a.finish b.finish { p with holding := false, stopped := true } where
  settings := h.settings
  calm := h.calm
  wanted := h.wanted
  buffered := h.buffered.trans (congrArg _ (Queue.size_finish _).symm)
  whole := h.whole
  ended := rfl
  complete := rfl
  last := fun _ => ha
  faultless := h.faultless
  heeded := h.heeded

/-- A chunk is taken from the queue. -/
theorem consume (h : Coupled s body a b p) {c : Chunk} {rest : List Item}
    (hi : b.queue.items = .chunk c :: rest) :
    Coupled s body a (({ b with queue := { b.queue with items := rest } }).consume c.val.length)
      p where
  settings := by
    rw [Bridge.consume, Bridge.withFlow_flow, Flow.consumed, Flow.grant_settings]
    exact h.settings
  calm := (Bridge.consume_failure ..).trans h.calm
  wanted := (Bridge.withFlow_released ..).trans h.wanted
  buffered := by
    have hb := h.buffered
    rw [Queue.size, hi, List.flatMap_cons, List.length_append] at hb
    rw [Bridge.consume_queue, Bridge.consume, Bridge.withFlow_flow, Flow.consumed,
      Flow.grant_buffered]
    show b.flow.buffered - c.val.length = ((rest.flatMap (·.bytes)).length : Int)
    have : (Item.chunk c).bytes = c.val := rfl
    rw [hb, this]
    omega
  whole := h.whole
  ended := h.ended
  complete := (Bridge.consume_complete ..).trans h.complete
  last := h.last
  faultless := h.faultless
  heeded := h.heeded

/-- The end marker is taken from the queue. -/
theorem reachEnd (h : Coupled s body a b p) {rest : List Item}
    (hi : b.queue.items = .finish :: rest) :
    Coupled s body a (({ b with queue := { b.queue with items := rest } }).log .endReached) p := by
  refine h.of_bridge _ rfl ?_ rfl rfl rfl
  rw [Queue.size, Queue.size, hi]
  rfl

end Coupled

/-! ## Every move keeps the two in step -/

namespace Producer

variable {p : Producer}

theorem acquire?_cases (h : p.holding = false) :
    p.acquire? = none ∨ ∃ q, p.stopped = false ∧ p.permits.acquire? = some q ∧
      p.acquire? = some { p with permits := q, holding := true } := by
  unfold acquire?
  by_cases hs : p.stopped = true
  · rw [if_pos hs]
    exact .inl rfl
  · rw [if_neg hs, if_neg (Bool.eq_false_iff.mp h)]
    rcases hq : p.permits.acquire? with _ | q
    · exact .inl rfl
    · exact .inr ⟨q, Bool.eq_false_iff.mpr hs, rfl, rfl⟩

/-- A producer that has to wait holds no permit and gets none. -/
theorem acquire?_none (hs : p.stopped = false) (h : p.acquire? = none) :
    p.holding = false ∧ p.permits.acquire? = none := by
  unfold acquire? at h
  rw [if_neg (Bool.eq_false_iff.mp hs)] at h
  split at h
  · cases h
  · rename_i hh
    exact ⟨Bool.eq_false_iff.mpr hh, Option.map_eq_none_iff.mp h⟩

theorem deliver?_cases (h : p.holding = true) (hf : p.fault = none) :
    p.deliver? = none ∨
    (∃ bytes ahead, p.stopped = false ∧ p.ahead = bytes :: ahead ∧
      p.deliver? = some (.next bytes,
        { p with ahead, holding := false, delivered := p.delivered + bytes.length })) ∨
    (p.stopped = false ∧ p.ahead = [] ∧
      p.deliver? = some (.finish, { p with holding := false, stopped := true })) := by
  unfold deliver?
  by_cases hs : p.stopped = true
  · rw [if_pos (by rw [hs, Bool.true_or])]
    exact .inl rfl
  · have hs := Bool.eq_false_iff.mpr hs
    rw [if_neg (by rw [hs, h]; exact Bool.false_ne_true)]
    right
    split
    · rename_i bytes ahead ha
      exact .inl ⟨bytes, ahead, hs, ha, rfl⟩
    · rename_i ha
      refine .inr ⟨hs, ha, ?_⟩
      rw [ending, hf]

end Producer

namespace Transfer

variable {s : StreamSettings} {body : Bytes} {t : Transfer}

/-- The producer hears of the demand that an action sends. -/
theorem act_eq {a : Session.Action} {demand : Option Nat}
    (h : (t.transcript.session.step a).bridge.signals =
      t.bridge.signals ++ (demand.map (.request Download.subscription)).toList) :
    t.act a = { t with
      transcript := t.transcript.step a, producer := t.producer.grant demand } := by
  have h : (t.transcript.step a).session.bridge.signals = _ := h
  unfold act
  dsimp only
  rw [find?_follow h]
  rfl

/-- A reader that waits has nothing to take. -/
theorem ReaderWaits.queue_empty (hr : t.ReaderWaits) : t.bridge.queue.items = [] := by
  rcases hr with ⟨n, hn⟩ | ⟨-, ht⟩
  · obtain ⟨r, -, he⟩ := Option.map_eq_some_iff.mp hn
    obtain ⟨-, -, -, -, hi, -⟩ := Reader.tryRead_blocked he
    exact hi
  · rcases t.bridge.queue.take_cases with ⟨i, rest, -, he⟩ | ⟨hi, -⟩ | ⟨-, he⟩
    · rw [Bridge.take, he] at ht
      cases ht
    · exact hi
    · rw [Bridge.take, he] at ht
      cases ht

/-- What every move keeps. -/
structure Running (s : StreamSettings) (body : Bytes) (t : Transfer) : Prop where
  sound : t.transcript.Sound
  unclosed : t.transcript.session.Unclosed
  coupled : Coupled s body t.transcript.toAccount t.bridge t.producer
  fits : t.task.Fits t.bridge t.producer

theorem running_start {τ : Type} (s : StreamSettings) (d : Download τ) (url : String) {r : Response}
    (hr : r.body.intact = true) : Running s r.body.pieces.flatten (start s d url r) where
  sound := Transcript.sound_start s
  unclosed := nofun
  coupled := {
    settings := rfl
    calm := rfl
    wanted := rfl
    buffered := rfl
    whole := rfl
    ended := rfl
    complete := rfl
    last := nofun
    faultless := if_pos hr
    heeded := rfl }
  fits := ⟨rfl, rfl, rfl, rfl, rfl⟩

namespace Running

theorem intact (h : Running s body t) :
    Intact t.transcript.toAccount t.transcript.session.current t.bridge.queue :=
  h.sound.intact h.unclosed

/-- An action keeps everything if the bridge and the producer that hears of the demand stay in
step. -/
theorem of_act (h : Running s body t) (a : Session.Action) (p : Producer) (demand : Option Nat)
    (task : Task) (ha : a ≠ .close)
    (hs : (t.transcript.session.step a).bridge.signals =
      t.bridge.signals ++ (demand.map (.request Download.subscription)).toList)
    (hc : Coupled s body (t.transcript.step a).toAccount (t.transcript.session.step a).bridge p)
    (hf : task.Fits (t.transcript.session.step a).bridge (p.grant demand)) :
    Running s body { ({ t with producer := p } : Transfer).act a with task } := by
  rw [act_eq (t := { t with producer := p }) hs]
  exact ⟨h.sound.step a, h.unclosed.step ha, hc.grant demand, hf⟩

/-- An action that leaves the bridge as it is. -/
theorem quiet (h : Running s body t) {a : Session.Action} (ha : a ≠ .close)
    (hb : (t.transcript.session.step a).bridge = t.bridge)
    (ht : a.tell t.transcript.toAccount = t.transcript.toAccount) : Running s body (t.act a) := by
  refine h.of_act a t.producer none t.task ha ?_ ?_ ?_
  · rw [hb]
    exact (List.append_nil _).symm
  · rw [hb, Transcript.step, ht]
    exact h.coupled.receive _
  · rw [hb]
    exact h.fits

theorem balanced (h : Running s body t) (ht : t.task = .pumping) :
    t.bridge.subscription = some Download.subscription ∧ (t.producer.stopped = false →
      Balanced t.bridge.flow t.producer.permits t.producer.holding.toNat) := by
  have hf := h.fits
  rw [ht] at hf
  exact hf

/-- A chunk that is read was pushed by the pump, so the demand that follows is heard. -/
theorem reads (h : Running s body t) (hw : s.Workable) {a : Session.Action} (ha : a.reads = true) :
    Running s body (t.act a) := by
  have hclose : a ≠ .close := by
    rintro rfl
    cases ha
  have htell := Transcript.tell_of_reads ha t.transcript.toAccount
  have hpumping : t.bridge.queue.items ≠ [] → t.task = .pumping := by
    intro hi
    have hf := h.fits
    cases ht : t.task with
    | pumping => rfl
    | opening => rw [ht] at hf; exact absurd hf.2.1 hi
    | answered => rw [ht] at hf; exact absurd hf.2.1 hi
  have hreads := t.transcript.session.reads_step ha
  generalize hb : (t.transcript.session.step a).bridge = b' at hreads
  cases hreads with
  | nothing => exact h.quiet hclose hb htell
  | @chunk c rest hi =>
    have ht := hpumping (hi ▸ List.cons_ne_nil _ _)
    have hf := h.fits
    rw [ht] at hf
    obtain ⟨hsub, hbal⟩ := hf
    refine h.of_act a t.producer (t.bridge.flow.consumed c.val.length).1 t.task hclose ?_ ?_ ?_
    · rw [hb]
      exact Bridge.withFlow_signals (b := { t.bridge with
        queue := { t.bridge.queue with items := rest } }) h.coupled.wanted hsub _ _
    · rw [hb, Transcript.step, htell]
      exact (h.coupled.consume hi).receive _
    · rw [hb, ht]
      refine ⟨(Bridge.withFlow_subscription ..).trans hsub, fun hs => ?_⟩
      rw [Bridge.consume, Bridge.withFlow_flow]
      exact (hbal hs).consumed (h.coupled.settings ▸ hw) _
  | @finish rest hi =>
    have ht := hpumping (hi ▸ List.cons_ne_nil _ _)
    refine h.of_act a t.producer none t.task hclose ?_ ?_ ?_
    · rw [hb]
      exact (List.append_nil _).symm
    · rw [hb, Transcript.step, htell]
      exact (h.coupled.reachEnd hi).receive _
    · rw [hb, ht]
      exact h.balanced ht
  | left hd =>
    rcases Bool.or_eq_true_iff.mp hd with hd | hd
    · exact Bool.noConfusion (h.intact.attended.symm.trans hd)
    · exact Bool.noConfusion (h.intact.accepting.symm.trans hd)

theorem acquire (h : Running s body t) (ht : t.task = .pumping) (hh : t.producer.holding = false) :
    Running s body t.acquire := by
  obtain ⟨hsub, hbal⟩ := h.balanced ht
  rw [hh] at hbal
  unfold Transfer.acquire
  rcases Producer.acquire?_cases hh with he | ⟨q, hs, hq, he⟩
  · rw [he]
    exact h
  · rw [he]
    refine ⟨h.sound, h.unclosed, h.coupled.acquire hq, ?_⟩
    dsimp only
    rw [ht]
    exact ⟨hsub, fun _ => (hbal hs).acquire hq⟩

/-- A piece of the body goes to the queue and its demand is used up, or the end is told. -/
theorem deliver (h : Running s body t) (hw : s.Workable) (ht : t.task = .pumping)
    (hh : t.producer.holding = true) : Running s body t.deliver := by
  obtain ⟨hsub, hbal⟩ := h.balanced ht
  rw [hh] at hbal
  unfold Transfer.deliver
  rcases Producer.deliver?_cases hh h.coupled.faultless with he | ⟨bytes, ahead, hs, ha, he⟩ |
    ⟨hs, ha, he⟩
  · rw [he]
    exact h
  · rw [he]
    have hq := h.intact.told.trans (h.coupled.ended.trans hs)
    refine h.of_act (.next bytes) _ (t.bridge.flow.chunk bytes.length).1 t.task nofun ?_ ?_ ?_
    · exact Bridge.withFlow_signals
        (b := { t.bridge with queue := (t.bridge.queue.push bytes).2 }) h.coupled.wanted hsub _ _
    · exact (h.coupled.next hq h.intact.accepting hs ha).receive []
    · rw [ht]
      refine ⟨(Bridge.withFlow_subscription ..).trans hsub, fun _ => ?_⟩
      show Balanced (t.bridge.next bytes).flow _ _
      rw [Bridge.next, Bridge.withFlow_flow]
      exact (hbal hs).chunk (h.coupled.settings ▸ hw) _
  · rw [he]
    refine h.of_act .finish _ none t.task nofun ?_ ?_ ?_
    · exact (List.append_nil _).symm
    · exact (h.coupled.finish ha).receive []
    · rw [ht]
      exact ⟨hsub, nofun⟩

/-- The answer comes first, then the subscription, and then the body goes out permit by permit. -/
theorem pump (h : Running s body t) (hw : s.Workable) : Running s body t.pump := by
  have hf := h.fits
  unfold Transfer.pump
  cases ht : t.task with
  | opening =>
    rw [ht] at hf
    refine h.of_act (.answer t.info) t.producer none .answered nofun ?_ ?_ hf
    · exact (List.append_nil _).symm
    · show Coupled s body (t.transcript.receive []) (t.bridge.answer t.info) _
      exact (h.coupled.of_bridge (t.bridge.answer t.info) rfl rfl rfl rfl rfl).receive []
  | answered =>
    rw [ht] at hf
    obtain ⟨hsub, -, hu, hp, hh⟩ := hf
    have hw : t.bridge.flow.settings.Workable := h.coupled.settings ▸ hw
    have hbal := Balanced.subscribe hw (t.bridge.response.bind (·.length)) hu
    have hb : (t.transcript.session.step (.subscribe Download.subscription)).bridge =
        t.bridge.subscribe Download.subscription := rfl
    refine h.of_act (.subscribe Download.subscription) t.producer
      (some (t.bridge.flow.subscribe (t.bridge.response.bind (·.length))).1) .pumping nofun ?_ ?_ ?_
    · rw [hb, Bridge.subscribe, if_neg (Bool.eq_false_iff.mp h.coupled.wanted)]
      rfl
    · exact (h.coupled.subscribe _).receive _
    · rw [hb, Bridge.subscribe, if_neg (Bool.eq_false_iff.mp h.coupled.wanted)]
      refine ⟨rfl, fun _ => ?_⟩
      show Balanced _ (t.producer.permits.grant _) t.producer.holding.toNat
      rw [hp, hh]
      exact hbal
  | pumping =>
    dsimp only
    by_cases hh : t.producer.holding = true
    · rw [if_pos hh]
      exact h.deliver hw ht hh
    · rw [if_neg hh]
      exact h.acquire ht (Bool.eq_false_iff.mpr hh)

theorem step (h : Running s body t) (hw : s.Workable) (m : Move) : Running s body (t.step m) := by
  cases m with
  | pump => exact h.pump hw
  | poll watching => exact h.quiet nofun (h.sound.resolved.poll_current watching).2.2 rfl
  | watch => exact h.quiet nofun t.transcript.session.watch_current.2.2 rfl
  | read | readByte | wake => exact h.reads hw rfl
  | available => exact h.quiet nofun rfl rfl
  | interrupt => exact h.quiet nofun rfl rfl

theorem run (h : Running s body t) (hw : s.Workable) (moves : List Move) :
    Running s body (t.run moves) := by
  induction moves generalizing t with
  | nil => exact h
  | cons m moves ih => exact ih (h.step hw m)

/-- A reader that finds nothing found the queue empty, so there is a permit for the pump. -/
theorem not_stuck (h : Running s body t) (hr : t.ReaderWaits) : ¬ t.PumpWaits := by
  rintro ⟨ht, hs, ha⟩
  obtain ⟨hh, hq⟩ := Producer.acquire?_none hs ha
  obtain ⟨-, hbal⟩ := h.balanced ht
  rw [hh] at hbal
  have hb : t.bridge.queue.size = 0 := by
    rw [Queue.size, hr.queue_empty]
    rfl
  refine (hbal hs).not_dry h.coupled.heeded ?_ hq
  rw [h.coupled.buffered, hb]
  rfl

/-- The end comes after the whole body. -/
theorem received_eq (h : Running s body t) {a : Session.Action} {n : Nat}
    (ha : t.transcript.session.wanted a = some n) (hn : n ≠ 0)
    (hx : t.transcript.session.reading a = some (.bytes [])) :
    t.transcript.received = body := by
  cases h.sound.says h.unclosed h.coupled.calm ha hn hx with
  | bytes hout _ => exact absurd rfl hout
  | ended hend hall _ =>
    have hahead := h.coupled.last (h.coupled.ended.symm.trans hend)
    have hwhole := h.coupled.whole
    rw [hahead, List.flatten_nil, List.append_nil] at hwhole
    exact hall.trans hwhole

end Running

/-- **No deadlock.** Under settings with room for a batch and for a byte, a whole body is transferred
whatever its pieces and its declared length are, and whatever the schedule: the task never waits for
demand while the reader finds nothing and the stream is not complete, and when a reading of at least
one byte reports the end, the body was read. -/
theorem never_stuck {τ : Type} (s : StreamSettings) (hs : s.Workable) (d : Download τ) (url : String)
    (r : Response) (hr : r.body.intact = true) (moves : List Move) :
    ¬ (((start s d url r).run moves).ReaderWaits ∧
      ((start s d url r).run moves).bridge.complete = false ∧
      ((start s d url r).run moves).PumpWaits) ∧
    ∀ a n, ((start s d url r).run moves).transcript.session.wanted a = some n → 0 < n →
      ((start s d url r).run moves).transcript.session.reading a = some (.bytes []) →
        ((start s d url r).run moves).transcript.received = r.body.pieces.flatten := by
  have h := (running_start s d url hr).run hs moves
  constructor
  · rintro ⟨hw, -, hp⟩
    exact h.not_stuck hw hp
  · intro a n ha hn hx
    exact h.received_eq ha (Nat.ne_of_gt hn) hx

/-- Three pieces, one of them empty, through a window of four chunks: the last permit is for the
end. -/
theorem never_stuck_four_permits :
    let s : StreamSettings := { targetBuffer := 1, batch := 4, maxOutstanding := 5 }
    let d : Download Unit := { client := ⟨{}, .bearer "token", fun _ => true⟩ }
    let r : Response := ⟨200, [], { pieces := [[1, 2], [], [3]] }⟩
    let moves : List Move := [.pump, .pump, .poll false, .pump, .pump, .readByte, .pump, .pump,
      .pump, .pump, .read 5, .read 5, .pump, .pump]
    let t := (start s d "http://store/object" r).run moves
    s.Workable ∧ r.body.intact = true ∧
      t.transcript.session.reading (.read 5) = some (.bytes []) ∧
      t.transcript.received = [1, 2, 3] ∧ t.transcript.received = r.body.pieces.flatten := by
  intro s d r moves t
  have hs : s.Workable := ⟨by decide, by decide, by decide⟩
  have hx : t.transcript.session.reading (.read 5) = some (.bytes []) := by decide +kernel
  have ht : (start s d "http://store/object" r).run moves = t := rfl
  obtain ⟨-, hend⟩ := never_stuck s hs d "http://store/object" r rfl moves
  rw [ht] at hend
  exact ⟨hs, rfl, hx, by decide +kernel, hend (.read 5) 5 rfl (by decide) hx⟩

/-- Four pieces ahead of a reader that takes none of them, the task does wait. -/
example :
    let s : StreamSettings := { targetBuffer := 1, batch := 4, maxOutstanding := 5 }
    let d : Download Unit := { client := ⟨{}, .bearer "token", fun _ => true⟩ }
    let r : Response := ⟨200, [], { pieces := [[1], [2], [3], [4], [5]] }⟩
    ((start s d "http://store/object" r).run (.replicate 10 .pump)).PumpWaits := by
  refine ⟨by decide +kernel, by decide +kernel, Option.isNone_iff_eq_none.mp ?_⟩
  decide +kernel

end Transfer

end ResultFlow
