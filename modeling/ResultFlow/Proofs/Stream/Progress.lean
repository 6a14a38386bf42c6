import ResultFlow.Proofs.Options
import ResultFlow.Proofs.Stream.Demand

/-!
# Progress

The flow control of a stream between a producer that delivers only chunks that were asked for and a
reader that takes only bytes that were delivered. With settings that come from options, a report
after which nothing is buffered and nothing is on its way is answered with another batch, unless the
target of the buffer is zero: no option refuses it, and it stalls every stream after the first batch
(`progresses_iff`).

`Usage.Exact` says that the controller knows what the producer still owes and what the reader still
has; every report keeps it (`Exact.step`).
-/

namespace ResultFlow

namespace Flow

/-- What the controller is told: a chunk was delivered, or bytes were handed to the reader. -/
inductive Report
  | chunk (size : Nat)
  | consumed (size : Nat)
  deriving DecidableEq

/-- The counters after a report, before it is decided whether another batch is asked for. -/
def account (f : Flow) : Report → Flow
  | .chunk size => f.arrive size
  | .consumed size => f.leave size

/-- The demand that follows a report, and the counters with it. -/
def report (f : Flow) : Report → Option Nat × Flow
  | .chunk size => f.chunk size
  | .consumed size => f.consumed size

theorem report_eq (f : Flow) (r : Report) : f.report r = (f.account r).grant := by
  cases r <;> rfl

/-- Without room for a byte no object fits as a whole. -/
theorem fitsWhole_of_target_zero {f : Flow} (ht : f.settings.targetBuffer = 0)
    (length : Option Nat) : f.fitsWhole length = false := by
  cases length with
  | none => rfl
  | some length =>
    unfold fitsWhole
    rw [ht]
    exact decide_eq_false (Nat.not_lt_zero length)

/-- Without room for a byte no batch is asked for. -/
theorem grant_of_target_zero {f : Flow} (ht : f.settings.targetBuffer = 0) (hb : 0 ≤ f.buffered) :
    f.grant = (none, f) := by
  have hat : f.atTarget = true := by
    unfold atTarget
    rw [ht, decide_eq_true_iff]
    exact Binary.wholeDouble_le_integerDouble hb
  rcases f.grant_cases with ⟨hw, -⟩ | ⟨-, h⟩
  · unfold wantsMore at hw
    simp [hat] at hw
  · exact h

end Flow

open ResultFlow.Flow (Report)

/-! ## Usages -/

/-- A controller, the chunks that its producer was asked for and has not delivered, and the bytes
that its reader has not taken. -/
structure Usage where
  flow : Flow
  wanted : Nat
  held : Nat := 0

namespace Usage

/-- The first demand is sent, for an object of a declared length. -/
def start (s : StreamSettings) (length : Option Nat) : Usage where
  flow := ((Flow.start s).subscribe length).2
  wanted := ((Flow.start s).subscribe length).1

/-- The producer delivers what it was asked for, and the reader takes what was delivered. -/
def Allows (u : Usage) : Report → Prop
  | .chunk _ => 0 < u.wanted
  | .consumed size => size ≤ u.held

def step (u : Usage) (r : Report) : Usage where
  flow := (u.flow.report r).2
  wanted := (match r with
    | .chunk _ => u.wanted - 1
    | .consumed _ => u.wanted) + (u.flow.report r).1.getD 0
  held := match r with
    | .chunk size => u.held + size
    | .consumed size => u.held - size

def run (u : Usage) (reports : List Report) : Usage := reports.foldl step u

/-- Every report of a run is allowed when it comes. -/
def Keeps : Usage → List Report → Prop
  | _, [] => True
  | u, r :: reports => u.Allows r ∧ (u.step r).Keeps reports

instance (u : Usage) (r : Report) : Decidable (u.Allows r) :=
  match r with
  | .chunk _ => inferInstanceAs (Decidable (_ < _))
  | .consumed _ => inferInstanceAs (Decidable (_ ≤ _))

instance decidableKeeps (u : Usage) (reports : List Report) : Decidable (u.Keeps reports) :=
  match reports with
  | [] => .isTrue trivial
  | r :: reports =>
    have := decidableKeeps (u.step r) reports
    inferInstanceAs (Decidable (_ ∧ _))

/-- The report leaves nothing buffered and nothing on its way. -/
def Drains (u : Usage) (r : Report) : Prop :=
  (u.flow.account r).outstanding ≤ 0 ∧ (u.flow.account r).buffered ≤ 0

instance (u : Usage) (r : Report) : Decidable (u.Drains r) :=
  inferInstanceAs (Decidable (_ ∧ _))

/-! ## The counters are exact -/

/-- The controller knows what the producer owes and what the reader has. -/
structure Exact (s : StreamSettings) (u : Usage) : Prop where
  settings : u.flow.settings = s
  windowed : u.flow.unbounded = false
  outstanding : u.flow.outstanding = u.wanted
  buffered : u.flow.buffered = u.held

variable {s : StreamSettings} {u : Usage} {r : Report}

theorem exact_start {length : Option Nat} (h : (Flow.start s).fitsWhole length = false) :
    (start s length).Exact s := by
  have he : (Flow.start s).subscribe length =
      (s.batch, { Flow.start s with outstanding := s.batch }) := by
    unfold Flow.subscribe
    rw [if_neg (Bool.eq_false_iff.mp h)]
    rfl
  unfold start
  rw [he]
  exact ⟨rfl, rfl, rfl, rfl⟩

/-- Before the decision too. -/
theorem Exact.account (h : u.Exact s) (hr : u.Allows r) :
    (u.flow.account r).settings = s ∧ (u.flow.account r).unbounded = false ∧
      0 ≤ (u.flow.account r).outstanding ∧ 0 ≤ (u.flow.account r).buffered := by
  have ho := h.outstanding
  have hb := h.buffered
  cases r with
  | chunk size =>
    have hr : 0 < u.wanted := hr
    refine ⟨h.settings, h.windowed, ?_, ?_⟩
    · show 0 ≤ if u.flow.unbounded then u.flow.outstanding else u.flow.outstanding - 1
      rw [if_neg (Bool.eq_false_iff.mp h.windowed)]
      omega
    · show 0 ≤ u.flow.buffered + size
      omega
  | consumed size =>
    have hr : size ≤ u.held := hr
    refine ⟨h.settings, h.windowed, ?_, ?_⟩
    · show 0 ≤ u.flow.outstanding
      omega
    · show 0 ≤ u.flow.buffered - size
      omega

theorem Exact.step (h : u.Exact s) (hr : u.Allows r) : (u.step r).Exact s := by
  have ho := h.outstanding
  have hb := h.buffered
  cases r with
  | chunk size =>
    have hr : 0 < u.wanted := hr
    refine ⟨?_, ?_, ?_, ?_⟩
    · exact (Flow.grant_settings _).trans h.settings
    · exact (Flow.grant_unbounded _).trans h.windowed
    · refine (Flow.grant_outstanding _).trans ?_
      show (if u.flow.unbounded then u.flow.outstanding else u.flow.outstanding - 1) + _ =
        ((u.wanted - 1 + (u.flow.chunk size).1.getD 0 : Nat) : Int)
      rw [if_neg (Bool.eq_false_iff.mp h.windowed)]
      unfold Flow.chunk
      omega
    · refine (Flow.grant_buffered _).trans ?_
      show u.flow.buffered + size = ((u.held + size : Nat) : Int)
      omega
  | consumed size =>
    have hr : size ≤ u.held := hr
    refine ⟨?_, ?_, ?_, ?_⟩
    · exact (Flow.grant_settings _).trans h.settings
    · exact (Flow.grant_unbounded _).trans h.windowed
    · refine (Flow.grant_outstanding _).trans ?_
      show u.flow.outstanding + _ = ((u.wanted + (u.flow.consumed size).1.getD 0 : Nat) : Int)
      unfold Flow.consumed
      omega
    · refine (Flow.grant_buffered _).trans ?_
      show u.flow.buffered - size = ((u.held - size : Nat) : Int)
      omega

theorem Exact.run (h : u.Exact s) {reports : List Report} (hk : u.Keeps reports) :
    (u.run reports).Exact s := by
  induction reports generalizing u with
  | nil => exact h
  | cons r reports ih => exact ih (h.step hk.1) hk.2

theorem keeps_concat {reports : List Report} :
    u.Keeps (reports ++ [r]) ↔ u.Keeps reports ∧ (u.run reports).Allows r := by
  induction reports generalizing u with
  | nil => exact ⟨fun h => ⟨trivial, h.1⟩, fun h => ⟨h.2, trivial⟩⟩
  | cons first reports ih =>
    constructor
    · rintro ⟨hf, h⟩
      exact ⟨⟨hf, (ih.mp h).1⟩, (ih.mp h).2⟩
    · rintro ⟨⟨hf, h⟩, hr⟩
      exact ⟨hf, ih.mpr ⟨h, hr⟩⟩

/-! ## Answers -/

/-- With room for a byte and for a batch, a report that leaves nothing is answered. -/
theorem Exact.answered (h : u.Exact s) (hs : s.Workable) (hr : u.Allows r) (hd : u.Drains r) :
    (u.flow.report r).1 = some s.batch ∧ 0 < (u.flow.report r).2.outstanding := by
  obtain ⟨hset, hu, ho, -⟩ := h.account hr
  have hidle : (u.flow.account r).idle = true := Flow.idle_eq_true_iff.mpr hd
  have hw := Flow.wantsMore_of_idle (hset ▸ hs) hu hidle
  rw [Flow.report_eq]
  rcases (u.flow.account r).grant_cases with ⟨-, he⟩ | ⟨hn, -⟩
  · rw [he, hset]
    have hb := hs.batch
    refine ⟨rfl, ?_⟩
    show 0 < (u.flow.account r).outstanding + s.batch
    omega
  · rw [hw] at hn
    cases hn

/-- Without room for a byte no report is answered. -/
theorem Exact.unanswered (h : u.Exact s) (ht : s.targetBuffer = 0) (hr : u.Allows r) :
    u.flow.report r = (none, u.flow.account r) := by
  obtain ⟨hset, -, -, hb⟩ := h.account hr
  rw [Flow.report_eq]
  exact Flow.grant_of_target_zero (hset ▸ ht) hb

/-- The last chunk that was asked for leaves nothing, if it is empty and the reader has nothing. -/
theorem Exact.drains (h : u.Exact s) (hw : u.wanted = 1) (hh : u.held = 0) :
    u.Drains (.chunk 0) := by
  have ho := h.outstanding
  have hb := h.buffered
  constructor
  · show (if u.flow.unbounded then u.flow.outstanding else u.flow.outstanding - 1) ≤ 0
    rw [if_neg (Bool.eq_false_iff.mp h.windowed)]
    omega
  · show u.flow.buffered + ((0 : Nat) : Int) ≤ 0
    omega

/-- Without room for a byte the first batch is used up by as many chunks. -/
theorem Exact.used_up (h : u.Exact s) (ht : s.targetBuffer = 0) {n : Nat} (hn : u.wanted = n + 1) :
    u.Keeps (List.replicate n (.chunk 0)) ∧
      (u.run (List.replicate n (.chunk 0))).wanted = 1 ∧
      (u.run (List.replicate n (.chunk 0))).held = u.held := by
  induction n generalizing u with
  | zero => exact ⟨trivial, hn, rfl⟩
  | succ n ih =>
    have hr : u.Allows (.chunk 0) := by
      show 0 < u.wanted
      omega
    have hw : (u.step (.chunk 0)).wanted = n + 1 := by
      show u.wanted - 1 + (u.flow.report (.chunk 0)).1.getD 0 = n + 1
      rw [h.unanswered ht hr, hn]
      rfl
    obtain ⟨hk, hrest⟩ := ih (h.step hr) hw
    exact ⟨⟨hr, hk⟩, hrest⟩

/-- Under these settings, in every stream of an object that is not asked for as a whole, a report that
leaves nothing buffered and nothing on its way is answered with another batch, so that some chunk is
on its way again. -/
def Progresses (s : StreamSettings) : Prop :=
  ∀ length reports r, (Flow.start s).fitsWhole length = false →
    (start s length).Keeps (reports ++ [r]) → ((start s length).run reports).Drains r →
    (((start s length).run reports).flow.report r).1 = some s.batch ∧
      0 < (((start s length).run reports).flow.report r).2.outstanding

/-- Under these settings no report is ever answered: nothing follows the first demand. -/
def Stalls (s : StreamSettings) : Prop :=
  ∀ length reports r, (start s length).Keeps (reports ++ [r]) →
    (((start s length).run reports).flow.report r).1 = none

theorem progresses (hs : s.Workable) : Progresses s := by
  intro length reports r hwhole hk hd
  obtain ⟨hk, hr⟩ := keeps_concat.mp hk
  exact ((exact_start hwhole).run hk).answered hs hr hd

theorem stalls (ht : s.targetBuffer = 0) : Stalls s := by
  intro length reports r hk
  obtain ⟨hk, hr⟩ := keeps_concat.mp hk
  have hx := exact_start (Flow.fitsWhole_of_target_zero (f := .start s) ht length)
  rw [(hx.run hk).unanswered ht hr]

/-- A stall is no progress: the first batch can be used up. -/
theorem not_progresses (ht : s.targetBuffer = 0) (hb : 1 ≤ s.batch) : ¬ Progresses s := by
  intro h
  -- empty chunks use up the first batch, and nothing follows the last of them
  obtain ⟨n, hn⟩ := Nat.exists_eq_add_of_le' hb
  have hx : (start s none).Exact s := exact_start rfl
  obtain ⟨hk, hw, hh⟩ := hx.used_up ht hn
  have hall : (start s none).Keeps (List.replicate n (.chunk 0) ++ [.chunk 0]) :=
    keeps_concat.mpr ⟨hk, Nat.lt_of_lt_of_eq Nat.one_pos hw.symm⟩
  have hanswer := (h none _ _ rfl hall ((hx.run hk).drains hw hh)).1
  rw [stalls ht none _ _ hall] at hanswer
  cases hanswer

/-- Whatever options are tried, streams make progress under the settings exactly if the target of the
buffer is not zero. If it is zero, they stall. -/
theorem progresses_iff (options : List (String × String)) :
    (Progresses (Settings.ofOptions options).stream ↔
      (Settings.ofOptions options).stream.targetBuffer ≠ 0) ∧
    ((Settings.ofOptions options).stream.targetBuffer = 0 →
      Stalls (Settings.ofOptions options).stream) := by
  obtain ⟨bytes, n, hn, hs⟩ := Settings.stream_of_options options
  rw [hs]
  have hbatch : 1 ≤ 10 := by decide
  refine ⟨⟨?_, ?_⟩, stalls⟩
  · intro h ht
    exact not_progresses ht hbatch h
  · intro ht
    exact progresses ⟨Nat.pos_of_ne_zero ht, hbatch, hn⟩

/-- Ten chunks of five bytes fill a buffer for one byte; when they are read, another batch follows. -/
theorem progresses_iff_one_byte :
    let s := (Settings.ofOptions [("athena.stream.target_buffer_bytes", "1")]).stream
    let reports := List.replicate 10 (.chunk 5) ++ List.replicate 9 (.consumed 5)
    let u := (start s none).run reports
    s.targetBuffer = 1 ∧ (start s none).Keeps (reports ++ [.consumed 5]) ∧ u.Drains (.consumed 5) ∧
      (u.flow.report (.consumed 5)).1 = some 10 := by
  intro s reports u
  have ht : s.targetBuffer = 1 := by decide +kernel
  have hk : (start s none).Keeps (reports ++ [.consumed 5]) := by decide +kernel
  have hd : u.Drains (.consumed 5) := by decide +kernel
  refine ⟨ht, hk, hd, ?_⟩
  have hne : s.targetBuffer ≠ 0 := by
    rw [ht]
    decide
  have h := (progresses_iff [("athena.stream.target_buffer_bytes", "1")]).1.mpr hne
  exact (h none reports (.consumed 5) rfl hk hd).1

/-- A target of zero bytes is accepted. Ten chunks are delivered and read, as asked for, and nothing
more is asked for. -/
theorem stalled_without_target :
    let s := (Settings.ofOptions [("athena.stream.target_buffer_bytes", "0")]).stream
    let reports := List.replicate 10 (.chunk 5) ++ List.replicate 9 (.consumed 5)
    let u := (start s none).run reports
    (({} : Settings).verdict "athena.stream.target_buffer_bytes" "0").toBool = true ∧
      (start s none).Keeps (reports ++ [.consumed 5]) ∧ u.Drains (.consumed 5) ∧
      (u.flow.report (.consumed 5)).1 = none := by
  decide +kernel

end Usage

end ResultFlow
