import ResultFlow.Proofs.Stream.Supply

/-!
# Capacity

However slow the reader is, the buffered bytes stay below the target plus a window of chunks. The
argument is a potential: `Flow.load` counts the bytes that are buffered and those that the
outstanding chunks may still bring. Only a grant raises it, and a grant is made only below the
target and with room in the window. An object that is asked for as a whole fits below the target by
itself. The mean chunk size plays no part.
-/

namespace ResultFlow

/-- Settings of a window that has room for a batch. The window is a signed 64-bit number. -/
structure StreamSettings.Windowed (s : StreamSettings) : Prop where
  room : (s.batch : Int) < s.maxOutstanding
  word : s.maxOutstanding < 0x8000000000000000

/-- The most that is ever buffered, if no chunk has more than `c` bytes. -/
def StreamSettings.capacity (s : StreamSettings) (c : Nat) : Int :=
  s.targetBuffer + (s.maxOutstanding - 1) * c

theorem StreamSettings.Windowed.batch_lt_allChunks {s : StreamSettings} (h : s.Windowed) :
    s.batch < Flow.allChunks := by
  have := h.room
  have := h.word
  unfold Flow.allChunks
  omega

theorem StreamSettings.Windowed.batch_mul_le {s : StreamSettings} (h : s.Windowed) (c : Nat) :
    (s.batch : Int) * c ≤ (s.maxOutstanding - 1) * c := by
  have := h.room
  exact Int.mul_le_mul_of_nonneg_right (by omega) (Int.natCast_nonneg c)

theorem StreamSettings.Windowed.targetBuffer_le_capacity {s : StreamSettings} (h : s.Windowed)
    (c : Nat) : s.targetBuffer ≤ s.capacity c := by
  have := h.batch_mul_le c
  have : 0 ≤ (s.batch : Int) * c := Int.mul_nonneg (Int.natCast_nonneg _) (Int.natCast_nonneg c)
  unfold capacity
  omega

/-! ## The potential -/

namespace Flow

variable {f : Flow} {c : Nat}

/-- The bytes that are buffered, and those that the outstanding chunks may still bring. -/
def load (f : Flow) (c : Nat) : Int := f.buffered + f.outstanding * c

/-- A batch is asked for only below the target and with room in the window. -/
theorem room_of_wantsMore (h : f.wantsMore = true) :
    f.buffered < f.settings.targetBuffer ∧
      f.outstanding + f.settings.batch < f.settings.maxOutstanding := by
  simp only [wantsMore, Bool.and_eq_true, Bool.not_eq_true', decide_eq_true_iff] at h
  obtain ⟨⟨⟨-, htarget⟩, hroom⟩, -⟩ := h
  refine ⟨?_, hroom⟩
  rw [← Int.not_le]
  intro hle
  rw [atTarget, decide_eq_false_iff_not] at htarget
  exact htarget (Binary.wholeDouble_le_integerDouble hle)

/-- A grant keeps the load within the capacity. -/
theorem load_grant_le (h : f.load c ≤ f.settings.capacity c) :
    f.grant.2.load c ≤ f.settings.capacity c := by
  rcases f.grant_cases with ⟨hw, he⟩ | ⟨-, he⟩ <;> rw [he]
  · obtain ⟨htarget, hroom⟩ := room_of_wantsMore hw
    have hwindow : (f.outstanding + f.settings.batch) * c ≤ (f.settings.maxOutstanding - 1) * c :=
      Int.mul_le_mul_of_nonneg_right (by omega) (Int.natCast_nonneg c)
    show f.buffered + (f.outstanding + f.settings.batch) * c ≤
      f.settings.targetBuffer + (f.settings.maxOutstanding - 1) * c
    omega
  · exact h

/-- What a chunk brings was counted when it was asked for. -/
theorem load_arrive_le (hu : f.unbounded = false) {size : Nat} (hs : size ≤ c) :
    (f.arrive size).load c ≤ f.load c := by
  have hmul : (f.outstanding - 1) * c = f.outstanding * c - c := by
    rw [Int.sub_mul, Int.one_mul]
  show f.buffered + size + (if f.unbounded then f.outstanding else f.outstanding - 1) * c ≤
    f.buffered + f.outstanding * c
  rw [if_neg (Bool.eq_false_iff.mp hu), hmul]
  omega

theorem load_leave_le (size : Nat) : (f.leave size).load c ≤ f.load c := by
  show f.buffered - size + f.outstanding * c ≤ f.buffered + f.outstanding * c
  omega

end Flow

/-! ## The window -/

/-- In a window the producer delivers what it was asked for, and the load is within the capacity. -/
structure Within (f : Flow) (demands : List Nat) (told c : Nat) : Prop where
  limited : Flow.allChunks ∉ demands
  covered : told ≤ totalDemand demands
  outstanding : (totalDemand demands : Int) ≤ told + f.outstanding
  load : f.load c ≤ f.settings.capacity c

variable {f : Flow} {demands : List Nat} {told c : Nat}

namespace Within

/-- A grant, whether it is sent or not. -/
theorem grant (h : Within f demands told c) (hb : f.settings.batch < Flow.allChunks) (sent : Prop)
    [Decidable sent] :
    Within f.grant.2 (if sent then demands ++ f.grant.1.toList else demands) told c := by
  have hload : f.grant.2.load c ≤ f.grant.2.settings.capacity c := by
    rw [f.grant_settings]
    exact Flow.load_grant_le h.load
  have hout := h.outstanding
  have hgrant := f.grant_outstanding
  -- the counters take up a batch even if nobody is there to be asked for it
  split
  · have hsum := totalDemand_append demands f.grant.1
    refine ⟨?_, ?_, ?_, hload⟩
    · rw [List.mem_append, not_or]
      refine ⟨h.limited, ?_⟩
      rcases f.grant_cases with ⟨-, he⟩ | ⟨-, he⟩ <;> rw [he]
      · simp only [Option.toList_some, List.mem_singleton]
        omega
      · exact List.not_mem_nil
    · have := h.covered
      omega
    · rw [hsum, hgrant]
      omega
  · refine ⟨h.limited, h.covered, ?_, hload⟩
    rw [hgrant]
    omega

theorem arrive (h : Within f demands told c) (hu : f.unbounded = false)
    (hd : told < totalDemand demands) {size : Nat} (hs : size ≤ c) :
    Within (f.arrive size) demands (told + 1) c where
  limited := h.limited
  covered := hd
  outstanding := by
    have := h.outstanding
    show (totalDemand demands : Int) ≤ ((told + 1 : Nat) : Int) +
      (if f.unbounded then f.outstanding else f.outstanding - 1)
    rw [if_neg (Bool.eq_false_iff.mp hu)]
    omega
  load := Int.le_trans (Flow.load_arrive_le hu hs) h.load

theorem leave (h : Within f demands told c) (size : Nat) :
    Within (f.leave size) demands told c :=
  { h with load := Int.le_trans (Flow.load_leave_le size) h.load }

/-- What is on its way brings nothing negative. -/
theorem buffered_le (h : Within f demands told c) : f.buffered ≤ f.settings.capacity c := by
  have hout : 0 ≤ f.outstanding := by
    have := h.covered
    have := h.outstanding
    omega
  have hmul : 0 ≤ f.outstanding * c := Int.mul_nonneg hout (Int.natCast_nonneg c)
  have hload : f.buffered + f.outstanding * c ≤ f.settings.capacity c := h.load
  omega

/-- The first batch. -/
theorem subscribe (hw : f.settings.Windowed) (hb : f.buffered ≤ 0)
    (length : Option Nat) (hf : (f.subscribe length).2.unbounded = false) :
    Within (f.subscribe length).2 [(f.subscribe length).1] 0 c := by
  unfold Flow.subscribe at hf ⊢
  split
  · rename_i hfits
    rw [if_pos hfits] at hf
    cases hf
  · have hbatch := hw.batch_lt_allChunks
    have hmul := hw.batch_mul_le c
    refine ⟨?_, Nat.zero_le _, ?_, ?_⟩
    · rw [List.mem_singleton]
      omega
    · simp [totalDemand]
    · show f.buffered + (f.settings.batch : Int) * c ≤
        f.settings.targetBuffer + (f.settings.maxOutstanding - 1) * c
      omega

end Within

/-- An object is asked for as a whole only if its declared length is below the target. -/
theorem Flow.length_of_subscribe (hu : f.unbounded = false) {length : Option Nat}
    (h : (f.subscribe length).2.unbounded = true) :
    ∃ n, length = some n ∧ n < f.settings.targetBuffer := by
  unfold subscribe at h
  split at h
  · rename_i hfits
    cases length with
    | none => cases hfits
    | some n => exact ⟨n, rfl, of_decide_eq_true hfits⟩
  · exact absurd (hu.symm.trans h) Bool.false_ne_true

/-! ## What a supply holds -/

namespace Supply

/-- What bounds the buffered bytes of a supply whose chunks have at most `c` bytes. -/
structure Contained (settings : StreamSettings) (c : Nat) (s : Supply) : Prop where
  kept : s.bridge.flow.settings = settings
  before : s.subscribed = false → s.bridge.subscription = none ∧ s.bridge.demands = [] ∧
    s.told = [] ∧ s.bridge.flow.unbounded = false
  delivered : s.bridge.flow.buffered ≤ s.told.flatten.length
  whole : s.bridge.flow.unbounded = true → ∃ length,
    s.bridge.response.bind (·.length) = some length ∧ length < settings.targetBuffer
  window : s.bridge.flow.unbounded = false →
    Within s.bridge.flow s.bridge.demands s.told.length c

variable {settings : StreamSettings} {s : Supply}

theorem contained_start (hw : settings.Windowed) (c : Nat) :
    Contained settings c (start settings) where
  kept := rfl
  before _ := ⟨rfl, rfl, rfl, rfl⟩
  delivered := Int.le_refl 0
  whole h := by cases h
  window _ := {
    limited := List.not_mem_nil
    covered := Nat.le_refl 0
    outstanding := Int.le_refl 0
    load := by
      have := hw.targetBuffer_le_capacity c
      show (0 : Int) + 0 * c ≤ settings.capacity c
      omega }

/-- An action that leaves the counters alone. -/
theorem Contained.rest (h : Contained settings c s) {a : Session.Action}
    (hr : s.bridge.Rests (s.step a).bridge) (hc : a.chunk? = none) :
    Contained settings c (s.step a) := by
  have htold : (s.step a).told = s.told := told_step hc
  refine ⟨?_, ?_, ?_, ?_, ?_⟩
  · rw [hr.flow]
    exact h.kept
  · intro hs
    obtain ⟨hsub, hdemands, ht, hu⟩ := h.before (Bool.or_eq_false_iff.mp hs).1
    exact ⟨hr.unsubscribed hsub, hr.demands.trans hdemands, htold.trans ht, hr.flow ▸ hu⟩
  · rw [hr.flow, htold]
    exact h.delivered
  · rw [hr.flow]
    intro hu
    obtain ⟨length, hl, hlt⟩ := h.whole hu
    obtain ⟨info, hi, hil⟩ := Option.bind_eq_some_iff.mp hl
    exact ⟨length, by rw [hr.response info hi, ← hil]; rfl, hlt⟩
  · rw [hr.flow, hr.demands, htold]
    exact h.window

/-- The first demand is sent. -/
theorem Contained.subscribe (h : Contained settings c s) (hw : settings.Windowed) {name : String}
    (hs : s.subscribed = false) (hr : s.bridge.released = false) :
    Contained settings c (s.step (.subscribe name)) := by
  obtain ⟨-, hdemands, htold, hu⟩ := h.before hs
  obtain ⟨events, signals, hb, hd⟩ := Bridge.subscribe_eq hr name
  have hb : (s.step (.subscribe name)).bridge = _ := hb
  have hd : (s.step (.subscribe name)).bridge.demands = _ := hd
  have ht : (s.step (.subscribe name)).told = [] := (told_step rfl).trans htold
  have hbuffered : s.bridge.flow.buffered ≤ 0 := by
    have := h.delivered
    rwa [htold] at this
  have hw : s.bridge.flow.settings.Windowed := h.kept ▸ hw
  refine ⟨?_, ?_, ?_, ?_, ?_⟩
  · rw [hb]
    exact (Flow.subscribe_settings ..).trans h.kept
  · intro hs'
    simp [step, Session.Action.subscribes] at hs'
  · rw [hb, ht]
    exact Int.le_trans (Int.le_of_eq (Flow.subscribe_buffered ..)) hbuffered
  · rw [hb, ← h.kept]
    exact Flow.length_of_subscribe hu
  · rw [hd, hdemands, ht, hb]
    exact Within.subscribe hw hbuffered _

/-- A chunk arrives on demand. -/
theorem Contained.next (h : Contained settings c s) (hw : settings.Windowed) {bytes : Bytes}
    (hd : s.HasDemand) (hc : bytes.length ≤ c) : Contained settings c (s.step (.next bytes)) := by
  have hb : (s.step (.next bytes)).bridge = s.bridge.next bytes := rfl
  have hf : (s.step (.next bytes)).bridge.flow = (s.bridge.flow.arrive bytes.length).grant.2 :=
    s.bridge.next_flow bytes
  have ht : (s.step (.next bytes)).told = s.told ++ [bytes] := rfl
  have hu' : (s.bridge.flow.arrive bytes.length).grant.2.unbounded = s.bridge.flow.unbounded :=
    Flow.grant_unbounded _
  refine ⟨?_, ?_, ?_, ?_, ?_⟩
  · rw [hf]
    exact (Flow.grant_settings _).trans h.kept
  · intro hs
    obtain ⟨-, hdemands, -⟩ := h.before (Bool.or_eq_false_iff.mp hs).1
    exact absurd hd (not_hasDemand hdemands)
  · have := h.delivered
    rw [hf, Flow.grant_buffered, ht, List.flatten_append, List.length_append]
    show s.bridge.flow.buffered + bytes.length ≤
      ((s.told.flatten.length + [bytes].flatten.length : Nat) : Int)
    simp only [List.flatten_cons, List.flatten_nil, List.append_nil]
    omega
  · rw [hf, hu', hb, Bridge.next_response]
    exact h.whole
  · rw [hf, hu', hb, Bridge.demands_next, ht, List.length_append]
    intro hu
    have hwithin := h.window hu
    exact (hwithin.arrive hu (hd.resolve_left hwithin.limited) hc).grant
      (h.kept ▸ hw.batch_lt_allChunks) _

/-- A chunk is taken from the queue. -/
theorem Contained.take (h : Contained settings c s) (hw : settings.Windowed) {a : Session.Action}
    (ht : s.bridge.Takes (s.step a).bridge) (hc : a.chunk? = none) :
    Contained settings c (s.step a) := by
  obtain ⟨chunk, rest, -, hb⟩ := ht
  have htold : (s.step a).told = s.told := told_step hc
  have hf : (s.step a).bridge.flow = (s.bridge.flow.leave chunk.val.length).grant.2 := by
    rw [hb, Bridge.consume_flow]
    rfl
  have hdemands : (s.step a).bridge.demands =
      if s.bridge.released = false ∧ s.bridge.subscription.isSome = true then
        s.bridge.demands ++ (s.bridge.flow.leave chunk.val.length).grant.1.toList
      else s.bridge.demands := by
    rw [hb, Bridge.demands_consume]
    rfl
  have hu' : (s.bridge.flow.leave chunk.val.length).grant.2.unbounded = s.bridge.flow.unbounded :=
    Flow.grant_unbounded _
  refine ⟨?_, ?_, ?_, ?_, ?_⟩
  · rw [hf]
    exact (Flow.grant_settings _).trans h.kept
  · intro hs
    obtain ⟨hsub, hnone, hempty, hu⟩ := h.before (Bool.or_eq_false_iff.mp hs).1
    refine ⟨?_, ?_, htold.trans hempty, ?_⟩
    · rw [hb, Bridge.consume_subscription]
      exact hsub
    · rw [hdemands, hsub, if_neg (by simp)]
      exact hnone
    · rw [hf, hu']
      exact hu
  · have := h.delivered
    rw [hf, Flow.grant_buffered, htold]
    show s.bridge.flow.buffered - chunk.val.length ≤ _
    omega
  · rw [hf, hu', hb, Bridge.consume_response]
    exact h.whole
  · rw [hf, hu', hdemands, htold]
    intro hu
    exact ((h.window hu).leave _).grant (h.kept ▸ hw.batch_lt_allChunks) _

/-- Every allowed action with a chunk of at most `c` bytes keeps the bytes contained. -/
theorem Contained.step (h : Contained settings c s) (hw : settings.Windowed) {a : Session.Action}
    (ha : s.Allows a) (hc : ∀ bytes, a = .next bytes → bytes.length ≤ c) :
    Contained settings c (s.step a) := by
  rcases s.session.step_cases a with ⟨hr, hnone, -⟩ | ⟨name, rfl, hr, -⟩ | ⟨bytes, rfl, -⟩ |
    ⟨ht, hnone, -⟩
  · exact h.rest hr hnone
  · exact h.subscribe hw ha hr
  · exact h.next hw ha (hc bytes rfl)
  · exact h.take hw ht hnone

/-- **Bounded memory.** Under settings of a window with room for a batch, after every run of a
producer that keeps to its demand, whose chunks have at most `c` bytes and together no more than the
length it declared, if any, and of a reader: the bytes buffered are at most the target and all
chunks of the window but one. Nothing is assumed of the mean chunk size, and the stream may have
ended in any way. -/
theorem buffered_le_capacity (hw : settings.Windowed) (c : Nat) {actions : List Session.Action}
    (hk : (start settings).Keeps actions)
    (hc : ∀ bytes, .next bytes ∈ actions → bytes.length ≤ c) :
    let s := (start settings).run actions
    (∀ length, s.bridge.response.bind (·.length) = some length →
      s.told.flatten.length ≤ length) →
    s.bridge.flow.buffered ≤ settings.targetBuffer + (settings.maxOutstanding - 1) * c := by
  intro s hlength
  have h : Contained settings c s := by
    refine run_induction (fun s a hm ha h => h.step hw ha ?_) (contained_start hw c) hk
    rintro bytes rfl
    exact hc bytes hm
  cases hu : s.bridge.flow.unbounded with
  | true =>
    obtain ⟨length, hl, hlt⟩ := h.whole hu
    have hdelivered := h.delivered
    have hdeclared := hlength length hl
    have hcapacity : settings.targetBuffer ≤ settings.targetBuffer +
        (settings.maxOutstanding - 1) * c := hw.targetBuffer_le_capacity c
    omega
  | false =>
    have hle := (h.window hu).buffered_le
    rw [h.kept] at hle
    exact hle

/-- A chunk of three bytes is taken and one of five stays, more than the target. -/
theorem buffered_le_capacity_two_chunks :
    let settings : StreamSettings := { targetBuffer := 4, batch := 2, maxOutstanding := 3 }
    let actions : List Session.Action := [.answer ⟨some 8, none⟩, .subscribe "s", .poll false,
      .next [1, 2, 3], .read 2, .next [4, 5, 6, 7, 8]]
    let s := (start settings).run actions
    settings.Windowed ∧ (start settings).Keeps actions ∧
      (∀ bytes, .next bytes ∈ actions → bytes.length ≤ 5) ∧
      (∀ length, s.bridge.response.bind (·.length) = some length →
        s.told.flatten.length ≤ length) ∧
      s.bridge.flow.buffered = 5 ∧ s.bridge.flow.buffered ≤ 4 + (3 - 1) * 5 := by
  intro settings actions s
  have hw : settings.Windowed := ⟨by decide, by decide⟩
  have hk : (start settings).Keeps actions := by decide +kernel
  have hc : ∀ bytes, .next bytes ∈ actions → bytes.length ≤ 5 := by simp [actions]
  have hresponse : s.bridge.response.bind (·.length) = some 8 := by decide +kernel
  have hlength : ∀ length, s.bridge.response.bind (·.length) = some length →
      s.told.flatten.length ≤ length := by
    intro length h
    cases hresponse.symm.trans h
    decide +kernel
  exact ⟨hw, hk, hc, hlength, by decide +kernel, buffered_le_capacity hw 5 hk hc hlength⟩

end Supply

end ResultFlow
