import ResultFlow.Proofs.Stream.Supply

/-!
# Accounting

As long as nothing ends a stream, its counters are exact: the bytes buffered are those in the queue,
and the chunks outstanding are those asked for and not yet told. And its producer is never starved:
whenever the queue is empty some demand is left.

1. `Tallied` compares the counters with the demand that was sent and the chunks that were told;
   `Supplied` adds that something is buffered or on its way. A decision about a grant turns the
   first into the second (`Tallied.grant`).
2. `Books` holds of a live supply; every allowed action keeps it (`Books.step`).
-/

namespace ResultFlow

/-! ## Counters and demand -/

/-- The counters know the demand that was sent and the number of chunks that were told. -/
structure Tallied (f : Flow) (demands : List Nat) (told : Nat) : Prop where
  whole : f.unbounded = true → Flow.allChunks ∈ demands
  outstanding : f.unbounded = false → f.outstanding = (totalDemand demands : Int) - told
  covered : Flow.allChunks ∈ demands ∨ told ≤ totalDemand demands

/-- They do, and something is buffered or on its way. -/
structure Supplied (f : Flow) (demands : List Nat) (told : Nat) : Prop
    extends Tallied f demands told where
  busy : Flow.allChunks ∈ demands ∨ f.idle = false

variable {f : Flow} {demands : List Nat} {told : Nat}

/-- A grant adds the same batch to the counters and to the demand. -/
theorem Tallied.grant (h : Tallied f demands told) (hf : f.settings.Workable) :
    Supplied f.grant.2 (demands ++ f.grant.1.toList) told := by
  have hsum := totalDemand_append demands f.grant.1
  refine ⟨⟨?_, ?_, ?_⟩, ?_⟩
  · intro hu
    exact List.mem_append_left _ (h.whole (f.grant_unbounded ▸ hu))
  · intro hu
    rw [f.grant_outstanding, h.outstanding (f.grant_unbounded ▸ hu), hsum]
    omega
  · refine h.covered.imp (List.mem_append_left _) fun hle => ?_
    omega
  · cases hu : f.unbounded with
    | true => exact .inl (List.mem_append_left _ (h.whole hu))
    | false =>
      refine h.covered.imp (List.mem_append_left _) fun hle => Flow.grant_idle hf hu ?_
      have := h.outstanding hu
      omega

/-- A chunk uses up some of the demand. -/
theorem Tallied.arrive (h : Tallied f demands told)
    (hd : Flow.allChunks ∈ demands ∨ told < totalDemand demands) (size : Nat) :
    Tallied (f.arrive size) demands (told + 1) where
  whole := h.whole
  outstanding hu := by
    have hu : f.unbounded = false := hu
    have := h.outstanding hu
    show (if f.unbounded then f.outstanding else f.outstanding - 1) = _
    rw [if_neg (Bool.eq_false_iff.mp hu)]
    omega
  covered := hd

theorem Tallied.leave (h : Tallied f demands told) (size : Nat) :
    Tallied (f.leave size) demands told := ⟨h.whole, h.outstanding, h.covered⟩

/-- The first demand. -/
theorem Supplied.subscribe (hf : f.settings.Workable) (hu : f.unbounded = false)
    (length : Option Nat) : Supplied (f.subscribe length).2 [(f.subscribe length).1] 0 := by
  have hb := hf.batch
  unfold Flow.subscribe
  split
  · exact ⟨⟨fun _ => List.mem_singleton.mpr rfl, nofun, .inr (Nat.zero_le _)⟩,
      .inl (List.mem_singleton.mpr rfl)⟩
  · refine ⟨⟨fun h => absurd (hu.symm.trans h) Bool.false_ne_true, fun _ => ?_,
      .inr (Nat.zero_le _)⟩, .inr ?_⟩
    · simp [totalDemand]
    · rw [Bool.eq_false_iff, ne_eq, Flow.idle_eq_true_iff]
      show ¬ ((f.settings.batch : Int) ≤ 0 ∧ _)
      omega

/-! ## The books of a supply -/

namespace Supply

/-- What is known of a supply while nothing ended its stream. -/
structure Books (settings : StreamSettings) (s : Supply) : Prop where
  settings : s.bridge.flow.settings = settings
  unfinished : s.bridge.queue.finished = false
  accepting : s.bridge.queue.closed = false
  buffered : s.bridge.flow.buffered = s.bridge.queue.size
  before : s.subscribed = false → s.bridge.subscription = none ∧ s.bridge.demands = [] ∧
    s.told = [] ∧ s.bridge.flow.unbounded = false ∧ s.bridge.queue.size = 0
  after : s.subscribed = true → s.bridge.subscription.isSome = true ∧
    Supplied s.bridge.flow s.bridge.demands s.told.length

variable {settings : StreamSettings} {s : Supply}

theorem books_start (settings : StreamSettings) : Books settings (start settings) where
  settings := rfl
  unfinished := rfl
  accepting := rfl
  buffered := rfl
  before _ := ⟨rfl, rfl, rfl, rfl, rfl⟩
  after h := by cases h

/-- An action that leaves the counters alone. -/
theorem Books.rest (h : Books settings s) {a : Session.Action}
    (hr : s.bridge.Rests (s.step a).bridge) (hl : (s.step a).bridge.Live) (hc : a.chunk? = none)
    (hs : a.subscribes = false) : Books settings (s.step a) := by
  obtain ⟨hsize, hfin, hclosed⟩ := hr.queue hl
  have hsub := (hr.live hl).2
  have htold : (s.step a).told = s.told := told_step hc
  have hsubscribed : (s.step a).subscribed = s.subscribed := by
    rw [step, hs, Bool.or_false]
  exact {
    settings := hr.flow ▸ h.settings
    unfinished := hfin.trans h.unfinished
    accepting := hclosed.trans h.accepting
    buffered := by
      rw [hr.flow, hsize]
      exact h.buffered
    before := by
      rw [hsubscribed, hsub, hr.demands, htold, hr.flow, hsize]
      exact h.before
    after := by
      rw [hsubscribed, hsub, hr.demands, htold, hr.flow]
      exact h.after }

/-- The first demand is sent. -/
theorem Books.subscribe (h : Books settings s) (hw : settings.Workable) {name : String}
    (hs : s.subscribed = false) (hr : s.bridge.released = false) :
    Books settings (s.step (.subscribe name)) := by
  obtain ⟨-, hdemands, htold, hu, -⟩ := h.before hs
  obtain ⟨events, signals, hb, hd⟩ := Bridge.subscribe_eq hr name
  have hb : (s.step (.subscribe name)).bridge = _ := hb
  have hd : (s.step (.subscribe name)).bridge.demands = _ := hd
  have ht : (s.step (.subscribe name)).told = [] := (told_step rfl).trans htold
  refine ⟨?_, ?_, ?_, ?_, ?_, ?_⟩
  · rw [hb]
    exact (Flow.subscribe_settings ..).trans h.settings
  · rw [hb]
    exact h.unfinished
  · rw [hb]
    exact h.accepting
  · rw [hb]
    exact (Flow.subscribe_buffered ..).trans h.buffered
  · intro hs'
    simp [step, Session.Action.subscribes] at hs'
  · intro _
    rw [hd, hdemands, ht, hb]
    exact ⟨rfl, .subscribe (h.settings ▸ hw) hu _⟩

/-- A chunk goes to the queue and its demand is used up. -/
theorem Books.next (h : Books settings s) (hw : settings.Workable) {bytes : Bytes}
    (hd : s.HasDemand) (hr : s.bridge.released = false) :
    Books settings (s.step (.next bytes)) := by
  have hb : (s.step (.next bytes)).bridge = s.bridge.next bytes := rfl
  have hs : s.subscribed = true := by
    rw [← Bool.not_eq_false]
    intro hs
    obtain ⟨-, hdemands, -⟩ := h.before hs
    exact not_hasDemand hdemands hd
  obtain ⟨hsub, hsupplied⟩ := h.after hs
  have ht : (s.step (.next bytes)).told.length = s.told.length + 1 := List.length_append
  refine ⟨?_, ?_, ?_, ?_, ?_, ?_⟩
  · rw [hb, Bridge.next_flow]
    exact (Flow.grant_settings _).trans h.settings
  · rw [hb, Bridge.next_queue, Queue.push_finished]
    exact h.unfinished
  · rw [hb, Bridge.next_queue, Queue.push_closed]
    exact h.accepting
  · rw [hb, Bridge.next_queue, Queue.size_push h.unfinished h.accepting, Bridge.next_flow]
    refine (Flow.grant_buffered _).trans ?_
    show s.bridge.flow.buffered + bytes.length = ((s.bridge.queue.size + bytes.length : Nat) : Int)
    rw [h.buffered]
    rfl
  · intro hs'
    rw [step, hs] at hs'
    cases hs'
  · intro _
    rw [hb, Bridge.next_subscription, Bridge.demands_next, if_pos ⟨hr, hsub⟩, ht, Bridge.next_flow]
    exact ⟨hsub, (hsupplied.toTallied.arrive hd bytes.length).grant (h.settings ▸ hw)⟩

/-- A chunk is taken from the queue. -/
theorem Books.take (h : Books settings s) (hw : settings.Workable) {a : Session.Action}
    (ht : s.bridge.Takes (s.step a).bridge) (hr : s.bridge.released = false)
    (hc : a.chunk? = none) : Books settings (s.step a) := by
  obtain ⟨c, rest, hi, hb⟩ := ht
  have hsize := Queue.size_of_chunk hi
  have hpos := List.length_pos_iff.mpr c.property
  have hs : s.subscribed = true := by
    rw [← Bool.not_eq_false]
    intro hs
    obtain ⟨-, -, -, -, hzero⟩ := h.before hs
    omega
  obtain ⟨hsub, hsupplied⟩ := h.after hs
  have htold : (s.step a).told = s.told := told_step hc
  refine ⟨?_, ?_, ?_, ?_, ?_, ?_⟩
  · rw [hb, Bridge.consume_flow]
    exact (Flow.grant_settings _).trans h.settings
  · rw [hb, Bridge.consume_queue]
    exact h.unfinished
  · rw [hb, Bridge.consume_queue]
    exact h.accepting
  · rw [hb, Bridge.consume_queue, Bridge.consume_flow]
    refine (Flow.grant_buffered _).trans ?_
    show s.bridge.flow.buffered - c.val.length = _
    rw [h.buffered, hsize, Int.natCast_add, Int.add_comm, Int.add_sub_cancel]
  · intro hs'
    rw [step, hs] at hs'
    cases hs'
  · intro _
    rw [hb, Bridge.consume_subscription, Bridge.demands_consume, if_pos ⟨hr, hsub⟩, htold,
      Bridge.consume_flow]
    exact ⟨hsub, (hsupplied.toTallied.leave c.val.length).grant (h.settings ▸ hw)⟩

/-- Every allowed action keeps the books as long as nothing ends the stream. -/
theorem Books.step (hw : settings.Workable) {a : Session.Action} (ha : s.Allows a)
    (h : s.bridge.Live → Books settings s) (hl : (s.step a).bridge.Live) :
    Books settings (s.step a) := by
  -- what is live after the action was live before it
  rcases s.session.step_cases a with ⟨hr, hc, hs⟩ | ⟨name, rfl, hr, hb⟩ | ⟨bytes, rfl, hb⟩ |
    ⟨ht, hc, -⟩
  · have hl' := (hr.live hl).1
    refine (h hl').rest hr hl hc ?_
    rw [← Bool.not_eq_true]
    intro hs'
    exact Bool.false_ne_true (hl'.wanted.symm.trans (hs hs'))
  · obtain ⟨events, signals, he, -⟩ := Bridge.subscribe_eq hr name
    have he : (s.step (.subscribe name)).bridge = _ := he
    rw [he] at hl
    exact (h ⟨hr, hl.running, hl.calm⟩).subscribe hw ha hr
  · have hl' : s.bridge.Live := Bridge.live_of_next hl
    exact (h hl').next hw ha hl'.wanted
  · have hl' : s.bridge.Live := Bridge.live_of_takes ht hl
    exact (h hl').take hw ht hl'.wanted hc

/-- **Exact counters, and no starvation.** Under settings with room for a batch and for a byte,
after every run of a producer that subscribed and keeps to its demand, and of a reader, and as long
as nothing ended the stream: the bytes buffered are those of the chunks in the queue, the chunks
outstanding are those asked for less those told, unless all were asked for, and with an empty queue
the producer has demand left. -/
theorem counted_and_never_starved (hw : settings.Workable) {actions : List Session.Action}
    (hk : (start settings).Keeps actions) :
    let s := (start settings).run actions
    s.subscribed = true → s.bridge.Live →
      s.bridge.flow.buffered = s.bridge.queue.size ∧
      (s.bridge.flow.unbounded = false →
        s.bridge.flow.outstanding = (s.asked : Int) - s.told.length) ∧
      (s.bridge.queue.items = [] → s.HasDemand) := by
  intro s hs hl
  have h : s.bridge.Live → Books settings s :=
    run_induction (P := fun s => s.bridge.Live → Books settings s)
      (fun _ _ _ ha h => Books.step hw ha h) (fun _ => books_start settings) hk
  have hbooks := h hl
  obtain ⟨-, hsupplied⟩ := hbooks.after hs
  refine ⟨hbooks.buffered, hsupplied.outstanding, fun hi => ?_⟩
  have hzero : s.bridge.flow.buffered = 0 := by
    rw [hbooks.buffered, Queue.size, hi]
    rfl
  cases hu : s.bridge.flow.unbounded with
  | true => exact .inl (hsupplied.whole hu)
  | false =>
    refine hsupplied.busy.imp id fun hidle => ?_
    have hout := hsupplied.outstanding hu
    rw [Bool.eq_false_iff, ne_eq, Flow.idle_eq_true_iff] at hidle
    unfold asked
    omega

/-- Two of four chunks are told, one of them empty, and the other is taken from the queue. -/
theorem never_starved_half_told :
    let settings : StreamSettings := { targetBuffer := 4, batch := 4, maxOutstanding := 5 }
    let actions : List Session.Action :=
      [.answer ⟨some 9, none⟩, .subscribe "s", .poll false, .next [1, 2, 3], .next [], .readByte]
    let s := (start settings).run actions
    settings.Workable ∧ (start settings).Keeps actions ∧ s.subscribed = true ∧ s.bridge.Live ∧
      s.bridge.queue.items = [] ∧ s.bridge.flow.buffered = 0 ∧
      s.bridge.flow.outstanding = (s.asked : Int) - s.told.length ∧ s.asked = 4 ∧ s.HasDemand := by
  intro settings actions s
  have hw : settings.Workable := ⟨by decide, by decide, by decide⟩
  have hk : (start settings).Keeps actions := by decide +kernel
  have hl : s.bridge.Live := ⟨by decide +kernel, by decide +kernel, by decide +kernel⟩
  have hi : s.bridge.queue.items = [] := by decide +kernel
  obtain ⟨hbuffered, hout, hdemand⟩ := counted_and_never_starved hw hk rfl hl
  refine ⟨hw, hk, rfl, hl, hi, hbuffered.trans ?_, hout ?_, ?_, hdemand hi⟩
  · decide +kernel
  · decide +kernel
  · decide +kernel

end Supply

end ResultFlow
