import ResultFlow.Proofs.Stream.Capacity
import ResultFlow.Proofs.Stream.Progress

/-!
# The limit of outstanding chunks

The flow control of a stream among parties that keep to nothing: the producer may subscribe again
and again, and deliver what was not asked for, even before it subscribed, and the reader may take
what was never delivered. The outstanding chunks stay below the limit all the same, because a batch
is asked for only where it leaves room (`Flow.room_of_wantsMore`). Neither the buffered bytes nor the
mean chunk size have a say in this, whatever becomes of them.
-/

namespace ResultFlow

namespace Flow

/-- What the controller is told: somebody subscribed to an object of a declared length, or a
report. -/
inductive Notice
  | subscribed (length : Option Nat)
  | report (r : Report)
  deriving DecidableEq

variable {f : Flow}

@[simp] theorem account_settings (f : Flow) (r : Report) :
    (f.account r).settings = f.settings := by
  cases r <;> rfl

@[simp] theorem account_unbounded (f : Flow) (r : Report) :
    (f.account r).unbounded = f.unbounded := by
  cases r <;> rfl

/-- Deliveries lower the count of outstanding chunks, and nothing else changes it. -/
theorem account_outstanding_le (f : Flow) (r : Report) :
    (f.account r).outstanding ≤ f.outstanding := by
  cases r with
  | chunk size =>
    show (if f.unbounded then f.outstanding else f.outstanding - 1) ≤ f.outstanding
    split
    · exact Int.le_refl _
    · omega
  | consumed size => exact Int.le_refl _

@[simp] theorem report_settings (f : Flow) (r : Report) :
    (f.report r).2.settings = f.settings := by
  rw [report_eq, grant_settings, account_settings]

@[simp] theorem report_unbounded (f : Flow) (r : Report) :
    (f.report r).2.unbounded = f.unbounded := by
  rw [report_eq, grant_unbounded, account_unbounded]

/-- A report is answered with one batch, which fits below the limit and counts as outstanding, or
with nothing. -/
theorem report_cases (f : Flow) (r : Report) :
    (f.unbounded = false ∧
      (f.account r).outstanding + f.settings.batch < f.settings.maxOutstanding ∧
      f.report r = (some f.settings.batch,
        { f.account r with outstanding := (f.account r).outstanding + f.settings.batch })) ∨
    f.report r = (none, f.account r) := by
  rw [report_eq]
  rcases (f.account r).grant_cases with ⟨hw, h⟩ | ⟨-, h⟩
  · have hroom := (room_of_wantsMore hw).2
    have hu : (f.account r).unbounded = false := by
      unfold wantsMore at hw
      simp only [Bool.and_eq_true, Bool.not_eq_true'] at hw
      exact hw.1.1.1
    have hbatch : (f.account r).settings.batch = f.settings.batch := by rw [account_settings]
    rw [account_settings] at hroom
    rw [account_unbounded] at hu
    rw [h, hbatch]
    exact .inl ⟨hu, hroom, rfl⟩
  · exact .inr h

/-- All chunks are asked for exactly if the object fits the buffer. -/
theorem subscribe_eq_allChunks_iff (hb : f.settings.batch < allChunks) (length : Option Nat) :
    (f.subscribe length).1 = allChunks ↔ f.fitsWhole length = true := by
  unfold subscribe
  split
  · rename_i h
    exact ⟨fun _ => h, fun _ => rfl⟩
  · rename_i h
    exact ⟨fun he => absurd he (Nat.ne_of_lt hb), fun hw => absurd hw h⟩

end Flow

open ResultFlow.Flow (Notice Report)

/-! ## What the controller was told -/

/-- A controller, and what it answered to subscriptions. -/
structure Audience where
  flow : Flow
  /-- Whether the last subscription asked for all chunks. -/
  last : Bool := false
  /-- Whether some subscription asked for all chunks. -/
  ever : Bool := false

namespace Audience

def hear (a : Audience) : Notice → Audience
  | .subscribed length =>
    let (demand, flow) := a.flow.subscribe length
    { flow, last := demand == Flow.allChunks, ever := a.ever || demand == Flow.allChunks }
  | .report r => { a with flow := (a.flow.report r).2 }

theorem hear_subscribed (a : Audience) (length : Option Nat) :
    a.hear (.subscribed length) = {
      flow := (a.flow.subscribe length).2
      last := (a.flow.subscribe length).1 == Flow.allChunks
      ever := a.ever || (a.flow.subscribe length).1 == Flow.allChunks } := rfl

/-- A new controller that was told all this. -/
def run (s : StreamSettings) (notices : List Notice) : Audience :=
  notices.foldl hear { flow := .start s }

/-- There is room below the limit, unless all chunks were asked for at last. -/
structure Limited (s : StreamSettings) (a : Audience) : Prop where
  settings : a.flow.settings = s
  unbounded : a.flow.unbounded = a.ever
  below : a.last = false → a.flow.outstanding < s.maxOutstanding
  /-- What was never asked for was not asked for at last. -/
  past : a.last = true → a.ever = true

variable {s : StreamSettings} {a : Audience}

theorem limited_start (hs : s.Windowed) : Limited s { flow := .start s } where
  settings := rfl
  unbounded := rfl
  below _ := by
    have := hs.room
    show (0 : Int) < s.maxOutstanding
    omega
  past := nofun

/-- After a subscription to the whole object the count says nothing, and after another one a batch
is outstanding. -/
theorem Limited.subscribed (h : a.Limited s) (hs : s.Windowed) (length : Option Nat) :
    (a.hear (.subscribed length)).Limited s := by
  have hb : a.flow.settings.batch < Flow.allChunks := h.settings ▸ hs.batch_lt_allChunks
  have hall := Flow.subscribe_eq_allChunks_iff hb length
  have hset := (a.flow.subscribe_settings length).trans h.settings
  rw [hear_subscribed]
  by_cases hw : a.flow.fitsWhole length = true
  · rw [beq_iff_eq.mpr (hall.mpr hw), Bool.or_true]
    have hu : (a.flow.subscribe length).2.unbounded = true := by
      unfold Flow.subscribe
      rw [if_pos hw]
    exact ⟨hset, hu, nofun, fun _ => rfl⟩
  · rw [beq_eq_false_iff_ne.mpr fun he => hw (hall.mp he), Bool.or_false]
    have he : (a.flow.subscribe length).2 =
        { a.flow with outstanding := a.flow.settings.batch } := by
      unfold Flow.subscribe
      rw [if_neg hw]
    refine ⟨hset, ?_, fun _ => ?_, nofun⟩
    · show (a.flow.subscribe length).2.unbounded = a.ever
      rw [he]
      exact h.unbounded
    · show (a.flow.subscribe length).2.outstanding < s.maxOutstanding
      rw [he, h.settings]
      exact hs.room

theorem Limited.report (h : a.Limited s) (r : Report) : (a.hear (.report r)).Limited s := by
  refine ⟨(a.flow.report_settings r).trans h.settings,
    (a.flow.report_unbounded r).trans h.unbounded, fun hl => ?_, h.past⟩
  show (a.flow.report r).2.outstanding < s.maxOutstanding
  rcases a.flow.report_cases r with ⟨-, hroom, he⟩ | he <;> rw [he]
  · rw [h.settings] at hroom ⊢
    exact hroom
  · exact Int.lt_of_le_of_lt (a.flow.account_outstanding_le r) (h.below hl)

theorem limited_run (hs : s.Windowed) (notices : List Notice) : (run s notices).Limited s := by
  have hfold : ∀ a : Audience, a.Limited s → (notices.foldl hear a).Limited s := by
    induction notices with
    | nil => exact fun _ h => h
    | cons n notices ih =>
      intro a h
      refine ih (a.hear n) ?_
      cases n with
      | subscribed length => exact h.subscribed hs length
      | report r => exact h.report r
  exact hfold _ (limited_start hs)

/-- Whatever the controller is told, by parties that keep to nothing: unless all chunks were asked
for at last, the outstanding chunks are below the limit. A report is answered with nothing, or with
exactly one batch, which is then outstanding beside what the report alone would have left; the sum is
below the limit and has 64 bits. Once all chunks were asked for, no report is answered. -/
theorem outstanding_below_limit {s : StreamSettings} (hroom : (s.batch : Int) < s.maxOutstanding)
    (hword : s.maxOutstanding + s.batch ≤ 0x7FFFFFFFFFFFFFFF) (notices : List Notice) :
    let a := run s notices
    (a.last = false → a.flow.outstanding < s.maxOutstanding) ∧
    ∀ r : Report,
      ((a.flow.report r = (none, a.flow.account r)) ∨
        a.flow.report r = (some s.batch, { a.flow.account r with
          outstanding := (a.flow.account r).outstanding + s.batch })) ∧
      (a.ever = true → (a.flow.report r).1 = none) ∧
      (a.ever = false →
        (a.flow.account r).outstanding + s.batch ≤ 0x7FFFFFFFFFFFFFFF) := by
  intro a
  have hs : s.Windowed := ⟨hroom, by omega⟩
  have h : a.Limited s := limited_run hs notices
  refine ⟨h.below, fun r => ⟨?_, fun he => ?_, fun he => ?_⟩⟩
  · rcases a.flow.report_cases r with ⟨-, -, hr⟩ | hr
    · rw [h.settings] at hr
      exact .inr hr
    · exact .inl hr
  · rcases a.flow.report_cases r with ⟨hu, -⟩ | hr
    · exact Bool.noConfusion ((h.unbounded.trans he).symm.trans hu)
    · rw [hr]
  · have hlast : a.last = false := by
      rw [Bool.eq_false_iff]
      intro hl
      exact Bool.noConfusion (he.symm.trans (h.past hl))
    have := h.below hlast
    have := a.flow.account_outstanding_le r
    omega

/-- A delivery before anybody subscribed, a batch for an object of unknown length, bytes taken that
were never delivered, and then a subscription to an object that fits. -/
theorem outstanding_below_limit_unasked :
    let s : StreamSettings := { targetBuffer := 8, maxOutstanding := 11 }
    let notices : List Notice := [.report (.chunk 9), .subscribed none, .report (.consumed 100)]
    (s.batch : Int) < s.maxOutstanding ∧ s.maxOutstanding + s.batch ≤ 0x7FFFFFFFFFFFFFFF ∧
      (run s notices).last = false ∧ (run s notices).flow.buffered = -91 ∧
      (run s notices).flow.outstanding < s.maxOutstanding ∧
      (run s (notices ++ [.subscribed (some 1)])).ever = true ∧
      ((run s (notices ++ [.subscribed (some 1)])).flow.report (.consumed 5)).1 = none := by
  intro s notices
  have hroom : (s.batch : Int) < s.maxOutstanding := by decide
  have hword : s.maxOutstanding + s.batch ≤ 0x7FFFFFFFFFFFFFFF := by decide
  have hlast : (run s notices).last = false := by decide +kernel
  have hever : (run s (notices ++ [.subscribed (some 1)])).ever = true := by decide +kernel
  have hbuffered : (run s notices).flow.buffered = -91 := by decide +kernel
  have hbelow := (outstanding_below_limit hroom hword notices).1 hlast
  obtain ⟨-, hreports⟩ := outstanding_below_limit hroom hword (notices ++ [.subscribed (some 1)])
  obtain ⟨-, hnone, -⟩ := hreports (.consumed 5)
  exact ⟨hroom, hword, hlast, hbuffered, hbelow, hever, hnone hever⟩

end Audience

end ResultFlow
