import Mathlib.Data.List.Induction
import ResultFlow.Proofs.Occurrence
import ResultFlow.Proofs.Stream.Session

/-!
# The outcome of a stream

The first answer or failure decides how a stream opens, and the first failure is what every reading
of an open reader reports from then on.

1. `firstOutcome` and `firstFailure` are read off the actions of a run, and so is whether the stream
   was found decided (`Found`) and whether it has a reader (`Opened`).
2. `Records` says that the session knows the same. One step at a time: only an answer or a failure
   is news (`noNews_step`), and only a poll finds out (`step_resolved`, `step_reader`).
3. Main statement: opening, reading and reading after closing, over every run.
-/

namespace ResultFlow

/-! ## News -/

namespace Bridge

variable {b b' : Bridge}

/-- On the way from `b` to `b'` nothing new was learnt of how the stream opens, fails or ends. -/
structure NoNews (b b' : Bridge) : Prop where
  opening : b'.opening = b.opening
  failure : b'.failure = b.failure
  complete : b'.complete = b.complete

theorem NoNews.refl (b : Bridge) : b.NoNews b := ⟨rfl, rfl, rfl⟩

theorem noNews_withFlow (b : Bridge) (demand : Option Nat) (flow : Flow) :
    b.NoNews (b.withFlow demand flow) := by
  obtain ⟨_, _, h⟩ := b.withFlow_eq demand flow
  rw [h]
  exact ⟨rfl, rfl, rfl⟩

theorem noNews_release (b : Bridge) : b.NoNews b.release := by
  obtain ⟨_, _, _, h⟩ := b.release_eq
  rw [h]
  exact ⟨rfl, rfl, rfl⟩

theorem noNews_subscribe (b : Bridge) (name : String) : b.NoNews (b.subscribe name) := by
  unfold subscribe
  split
  · exact ⟨rfl, rfl, rfl⟩
  · exact ⟨rfl, rfl, rfl⟩

theorem noNews_next (b : Bridge) (bytes : Bytes) : b.NoNews (b.next bytes) := by
  obtain ⟨ho, hf, hc⟩ := noNews_withFlow { b with queue := (b.queue.push bytes).2 }
    (b.flow.chunk bytes.length).1 (b.flow.chunk bytes.length).2
  exact ⟨ho, hf, hc⟩

theorem noNews_drop (b : Bridge) (p : Prepared) : b.NoNews (p.drop b) := by
  unfold Prepared.drop
  split
  · exact .refl b
  · obtain ⟨ho, hf, hc⟩ := noNews_release (b.log .openingDropped)
    exact ⟨ho, hf, hc⟩

theorem noNews_close (b : Bridge) (r : Reader) : b.NoNews (r.close b).2 := by
  unfold Reader.close
  split
  · exact .refl b
  · split
    · exact .refl b
    · obtain ⟨ho, hf, hc⟩ :=
        noNews_release ({ b with queue := b.queue.drain.2 }.log (.streamClosed b.queue.drain.1))
      exact ⟨ho, hf, hc⟩

theorem Reads.noNews (h : b.Reads b') : b.NoNews b' := by
  cases h with
  | nothing => exact .refl b
  | @chunk c rest _ =>
    obtain ⟨ho, hf, hc⟩ := noNews_withFlow { b with queue := { b.queue with items := rest } }
      (b.flow.consumed c.val.length).1 (b.flow.consumed c.val.length).2
    exact ⟨ho, hf, hc⟩
  | finish | left => exact ⟨rfl, rfl, rfl⟩

/-- A failure decides how the stream opens if nothing else did. -/
theorem fail_opening (hf : b.failure = none) (cause : Error) :
    (b.fail cause).opening = b.opening.or (some (.error (.stream cause))) := by
  unfold fail
  rw [hf]
  refine (noNews_release _).opening.trans ?_
  show (b.opening <|> some _) = _
  cases b.opening <;> rfl

/-- The first failure is kept. -/
theorem fail_failure (b : Bridge) (cause : Error) :
    (b.fail cause).failure = b.failure.or (some cause) := by
  unfold fail
  cases hf : b.failure with
  | some e => exact hf
  | none => exact (noNews_release _).failure

end Bridge

namespace Session

open Bridge (noNews_subscribe noNews_next noNews_drop noNews_close)

namespace Action

/-- How an action decides the opening of a stream. -/
def outcome? : Action → Option (Except Error ObjectInfo)
  | answer info => some (.ok info)
  | fail cause => some (.error (.stream cause))
  | subscribe _ | next _ | finish | poll _ | drop | watch | read _ | readByte | wake | available
  | close | interrupt => none

/-- The cause of the failure that an action tells. -/
def cause? : Action → Option Error
  | fail cause => some cause
  | answer _ | subscribe _ | next _ | finish | poll _ | drop | watch | read _ | readByte | wake
  | available | close | interrupt => none

/-- Whether an action asks for the reader. -/
def polls : Action → Bool
  | poll _ => true
  | answer _ | subscribe _ | next _ | finish | fail _ | drop | watch | read _ | readByte | wake
  | available | close | interrupt => false

end Action

variable {s : Session} {a : Action} {before later actions : List Action}

/-! ## What an action changes -/

/-- Only an answer, a failure and the end are news. -/
theorem noNews_step (s : Session) (ha : a.outcome? = none) (hf : a ≠ .finish) :
    s.bridge.NoNews (s.step a).bridge := by
  cases a with
  | answer _ | fail _ => cases ha
  | finish => exact absurd rfl hf
  | subscribe name => exact s.bridge.noNews_subscribe name
  | next bytes => exact s.bridge.noNews_next bytes
  | poll watching =>
    rcases s.step_poll_cases watching with ⟨info, -, -, he⟩ | ⟨prepared, -, he⟩ <;> rw [he]
    · exact .refl _
    · exact .refl _
  | drop => exact s.bridge.noNews_drop s.prepared
  | watch => exact onReader_bridge _ (.refl _) fun _ => .refl _
  | read | readByte | wake => exact (s.reads_step rfl).noNews
  | available => exact .refl _
  | close => exact onReader_bridge _ (.refl _) fun r => s.bridge.noNews_close r
  | interrupt => exact .refl _

/-- The first outcome is kept. -/
theorem step_opening (hf : s.bridge.failure ≠ none → s.bridge.opening ≠ none) (a : Action) :
    (s.step a).bridge.opening = s.bridge.opening.or a.outcome? := by
  cases ha : a.outcome? with
  | none =>
    rw [Option.or_none]
    by_cases hfin : a = .finish
    · rw [hfin]
      rfl
    · exact (s.noNews_step ha hfin).opening
  | some x =>
    cases a with
    | answer info =>
      cases ha
      show (s.bridge.opening <|> some (.ok info)) = _
      cases s.bridge.opening <;> rfl
    | fail cause =>
      cases ha
      by_cases hn : s.bridge.failure = none
      · exact Bridge.fail_opening hn cause
      · obtain ⟨x, hx⟩ := Option.ne_none_iff_exists'.mp (hf hn)
        obtain ⟨e, he⟩ := Option.ne_none_iff_exists'.mp hn
        show (s.bridge.fail cause).opening = _
        rw [Bridge.fail, he, hx]
        exact hx
    | _ => cases ha

theorem step_failure (s : Session) (a : Action) :
    (s.step a).bridge.failure = s.bridge.failure.or a.cause? := by
  cases a with
  | answer info | finish => exact Option.or_none.symm
  | fail cause => exact s.bridge.fail_failure cause
  | _ =>
    refine (s.noNews_step ?_ ?_).failure.trans Option.or_none.symm
    · rfl
    · simp

theorem step_complete (s : Session) (a : Action) :
    (s.step a).bridge.complete = true ↔ s.bridge.complete = true ∨ a = .finish := by
  cases a with
  | finish => exact ⟨fun _ => .inr rfl, fun _ => rfl⟩
  | answer info => simp [step, Bridge.answer, Bridge.open?, Bridge.log]
  | fail cause => simp [step]
  | _ =>
    rw [(s.noNews_step ?_ ?_).complete]
    · simp
    · rfl
    · simp

/-- A stream is resolved by a poll that finds it decided, and by being given up. -/
theorem step_resolved (s : Session) (a : Action) :
    (s.step a).prepared.resolved = true ↔
      s.prepared.resolved = true ∨ (a.polls = true ∧ s.bridge.opening ≠ none) ∨ a = .drop := by
  by_cases ha : a.reads = true
  · rw [(s.reader_of_reads ha).1]
    cases a with
    | read | readByte | wake => simp [Action.polls]
    | _ => cases ha
  cases a with
  | poll watching =>
    simp only [step, Prepared.poll]
    by_cases hr : s.prepared.resolved = true
    · simp [hr]
    · rcases ho : s.bridge.opening with _ | ⟨e | info⟩ <;> simp [hr, Action.polls, Except.map]
  | drop => simp [step]
  | read | readByte | wake => exact absurd rfl ha
  | watch | close => simp [step, onReader_prepared, Action.polls]
  | _ => simp [step, Action.polls]

/-- A reader is made by a poll that finds the first answer. -/
theorem step_reader (s : Session) (a : Action) :
    (s.step a).reader ≠ none ↔ s.reader ≠ none ∨
      (a.polls = true ∧ s.prepared.resolved = false ∧
        ∃ info, s.bridge.opening = some (.ok info)) := by
  by_cases ha : a.reads = true
  · have hr : (s.step a).reader = none ↔ s.reader = none := by
      have hc := (s.reader_of_reads ha).2.2
      rw [← Option.map_eq_none_iff, hc, Option.map_eq_none_iff]
    rw [ne_eq, hr]
    cases a with
    | read | readByte | wake => simp [Action.polls]
    | _ => cases ha
  cases a with
  | poll watching =>
    simp only [step, Prepared.poll]
    by_cases hr : s.prepared.resolved = true
    · simp [hr]
    · rcases ho : s.bridge.opening with _ | ⟨e | info⟩ <;> simp [hr, Action.polls, Except.map]
  | read | readByte | wake => exact absurd rfl ha
  | watch | close => simp [step, onReader_reader, Action.polls]
  | _ => simp [step, Action.polls]

/-! ## Runs -/

def run (s : Session) (actions : List Action) : Session := actions.foldl step s

theorem run_append (s : Session) (before later : List Action) :
    s.run (before ++ later) = (s.run before).run later := List.foldl_append

theorem run_concat (s : Session) (actions : List Action) (a : Action) :
    s.run (actions ++ [a]) = (s.run actions).step a := s.run_append actions [a]

theorem Resolved.run (h : s.Resolved) (actions : List Action) : (s.run actions).Resolved := by
  induction actions generalizing s with
  | nil => exact h
  | cons a actions ih => exact ih (h.step a)

theorem Poised.run (h : s.Poised) (hs : s.Resolved) (actions : List Action) :
    (s.run actions).Poised := by
  induction actions generalizing s with
  | nil => exact h
  | cons a actions ih => exact ih (h.step hs a) (hs.step a)

/-- Once a reader is closed, it stays closed. -/
theorem closed_run (hs : s.Resolved) (h : ¬ s.Unclosed) (later : List Action) :
    ¬ (s.run later).Unclosed := by
  induction later generalizing s with
  | nil => exact h
  | cons a later ih => exact ih (hs.step a) (mt (unclosed_of_step hs) h)

/-- How the stream opens: the first answer or failure. -/
def firstOutcome (actions : List Action) : Option (Except Error ObjectInfo) :=
  actions.findSome? Action.outcome?

/-- The cause of the first failure. -/
def firstFailure (actions : List Action) : Option Error := actions.findSome? Action.cause?

/-- The reader was asked for when it was decided how the stream opens. -/
def Found (actions : List Action) : Prop :=
  Occurs (fun before a => a.polls = true ∧ firstOutcome before ≠ none) actions

/-- The reader was asked for after the first answer, and there is one. -/
def Opened (actions : List Action) : Prop :=
  Occurs (fun before a => a.polls = true ∧ .drop ∉ before ∧
    ∃ info, firstOutcome before = some (.ok info)) actions

theorem found_concat (before : List Action) (a : Action) :
    Found (before ++ [a]) ↔ Found before ∨ (a.polls = true ∧ firstOutcome before ≠ none) :=
  occurs_concat a

theorem opened_concat (before : List Action) (a : Action) :
    Opened (before ++ [a]) ↔ Opened before ∨
      (a.polls = true ∧ .drop ∉ before ∧ ∃ info, firstOutcome before = some (.ok info)) :=
  occurs_concat a

theorem firstOutcome_append (before later : List Action) :
    firstOutcome (before ++ later) = (firstOutcome before).or (firstOutcome later) :=
  List.findSome?_append

theorem firstFailure_append (before later : List Action) :
    firstFailure (before ++ later) = (firstFailure before).or (firstFailure later) :=
  List.findSome?_append

theorem firstOutcome_concat (before : List Action) (a : Action) :
    firstOutcome (before ++ [a]) = (firstOutcome before).or a.outcome? := by
  rw [firstOutcome_append, firstOutcome, firstOutcome, List.findSome?_singleton]

theorem firstFailure_concat (before : List Action) (a : Action) :
    firstFailure (before ++ [a]) = (firstFailure before).or a.cause? := by
  rw [firstFailure_append, firstFailure, firstFailure, List.findSome?_singleton]

/-- The cause of a failure that comes first. -/
theorem firstFailure_of_fail (hb : ∀ e, .fail e ∉ before) (cause : Error) (later : List Action) :
    firstFailure (before ++ .fail cause :: later) = some cause := by
  have hn : firstFailure before = none := by
    unfold firstFailure
    rw [List.findSome?_eq_none_iff]
    intro a ha
    cases a with
    | fail e => exact absurd ha (hb e)
    | _ => rfl
  rw [firstFailure_append, hn]
  rfl

/-- A failure is an outcome. -/
theorem firstOutcome_of_failure (h : firstFailure actions ≠ none) :
    firstOutcome actions ≠ none := by
  unfold firstFailure firstOutcome at *
  rw [ne_eq, List.findSome?_eq_none_iff] at *
  intro hn
  refine h fun a ha => ?_
  cases a with
  | fail cause => cases hn _ ha
  | _ => rfl

/-- A stream that was found to be answered, and was not given up, has a reader. -/
theorem opened_of_found (h : Found actions) (hd : .drop ∉ actions) {info : ObjectInfo}
    (ho : firstOutcome actions = some (.ok info)) : Opened actions := by
  obtain ⟨before, a, after, rfl, hp, hb⟩ := h
  refine ⟨before, a, after, rfl, hp, fun hm => hd (List.mem_append_left _ hm), info, ?_⟩
  obtain ⟨x, hx⟩ := Option.ne_none_iff_exists'.mp hb
  rw [firstOutcome_append, hx] at ho
  rw [hx, ← ho]
  rfl

/-! ## The session knows -/

/-- A session knows of the actions so far what they tell of the outcome. -/
structure Records (before : List Action) (s : Session) : Prop where
  opening : s.bridge.opening = firstOutcome before
  failure : s.bridge.failure = firstFailure before
  complete : s.bridge.complete = true ↔ .finish ∈ before
  resolved : s.prepared.resolved = true ↔ Found before ∨ .drop ∈ before
  reader : s.reader ≠ none ↔ Opened before

theorem records_start (settings : StreamSettings) : Records [] (start settings) where
  opening := rfl
  failure := rfl
  complete := by simp [start, Bridge.start]
  resolved := by simp [start, Found, not_occurs_nil]
  reader := by simp [start, Opened, not_occurs_nil]

theorem Records.step (h : Records before s) (a : Action) :
    Records (before ++ [a]) (s.step a) where
  opening := by
    rw [firstOutcome_concat, ← h.opening, step_opening]
    rw [h.opening, h.failure]
    exact firstOutcome_of_failure
  failure := by rw [firstFailure_concat, ← h.failure, step_failure]
  complete := by
    rw [step_complete, h.complete, List.mem_append, List.mem_singleton, eq_comm (a := a)]
  resolved := by
    rw [step_resolved, h.resolved, h.opening, found_concat, List.mem_append, List.mem_singleton,
      eq_comm (a := a)]
    tauto
  reader := by
    rw [step_reader, h.reader, h.opening, opened_concat]
    constructor
    · rintro (ho | ⟨hp, hr, ho⟩)
      · exact .inl ho
      · have hd : .drop ∉ before := fun hd => by
          rw [h.resolved.mpr (.inr hd)] at hr
          cases hr
        exact .inr ⟨hp, hd, ho⟩
    · rintro (ho | ⟨hp, hd, info, ho⟩)
      · exact .inl ho
      · by_cases hr : s.prepared.resolved = true
        · exact .inl (opened_of_found ((h.resolved.mp hr).resolve_right hd) hd ho)
        · exact .inr ⟨hp, Bool.eq_false_iff.mpr hr, info, ho⟩

theorem records_run (settings : StreamSettings) (actions : List Action) :
    Records actions ((start settings).run actions) := by
  induction actions using List.reverseRecOn with
  | nil => exact records_start settings
  | append_singleton before a ih =>
    rw [run_concat]
    exact ih.step a

/-! ## What poll and reader answer -/

/-- A stream that is not resolved answers what decides its opening. -/
theorem poll_of_unresolved (hr : s.prepared.resolved = false) (watching : Bool) :
    (s.prepared.poll s.bridge watching).1 =
      s.bridge.opening.map (·.map fun info => { info, watching }) := by
  unfold Prepared.poll
  rw [if_neg (Bool.eq_false_iff.mp hr)]
  cases s.bridge.opening with
  | none => rfl
  | some x => rfl

/-- After a failure every reading of an open reader reports it. -/
theorem reading_of_failure {r : Reader} (hr : s.reader = some r) (ho : r.closed = false)
    {cause : Error} (hf : s.bridge.failure = some cause) (ha : a.wanted ≠ none) :
    s.reading a = some (.failed (.stream cause)) := by
  obtain ⟨n, hn⟩ := Option.ne_none_iff_exists'.mp ha
  rw [reading_of_wanted hr hn, Reader.tryRead_of_failure ho hf]

/-- A failure ends the reading that waits. -/
theorem wake_of_failure {r : Reader} (hr : s.reader = some r) {cause : Error}
    (hf : s.bridge.failure = some cause) (hp : s.parked ≠ none) :
    s.reading .wake = some (.failed (.stream cause)) := by
  obtain ⟨n, hn⟩ := Option.ne_none_iff_exists'.mp hp
  simp only [reading, hn, hr, Option.map_some, Reader.wake_of_failure hf]

/-- After closing every reading reports the end. -/
theorem reading_of_closed (h : ¬ s.Unclosed) (ha : a.wanted ≠ none) :
    s.reading a = some (.bytes []) := by
  simp only [Unclosed, not_forall, exists_prop] at h
  obtain ⟨r, hr, hc⟩ := h
  have hc : r.closed = true := by simpa using hc
  obtain ⟨n, hn⟩ := Option.ne_none_iff_exists'.mp ha
  rw [reading_of_wanted hr hn, Reader.tryRead_of_closed hc]

/-- No reading of a closed reader waits. -/
theorem Poised.parked_of_closed (h : s.Poised) (hc : ¬ s.Unclosed) : s.parked = none := by
  rcases hp : s.parked with _ | n
  · rfl
  · obtain ⟨-, r, hr, ho, -⟩ := h n hp
    refine absurd (fun r' hr' => ?_) hc
    rw [hr] at hr'
    cases hr'
    exact ho

theorem not_unclosed_close (h : s.reader ≠ none) : ¬ (s.step .close).Unclosed := by
  obtain ⟨r, hr⟩ := Option.ne_none_iff_exists'.mp h
  intro hu
  have hc := hu _ (congrArg Session.reader (onReader_of_some hr _))
  rw [close_closed] at hc
  cases hc

/-- **The first outcome wins and a failure stays.** After every run: a stream of which nothing was
found and which was not given up opens, fails or waits as the first answer or failure says; once a
failure was told, every reading of a reader that is not closed reports the first one, the reading that
waits included, and so does the number of bytes at hand; and once a reader was closed, none waits and
every reading reports the end. -/
theorem first_outcome_wins (settings : StreamSettings) (actions : List Action) :
    let s := (start settings).run actions
    (¬ Found actions → .drop ∉ actions → ∀ watching,
      (s.prepared.poll s.bridge watching).1 =
        (firstOutcome actions).map (·.map fun info => { info, watching })) ∧
    (∀ before cause later, actions = before ++ .fail cause :: later → (∀ e, .fail e ∉ before) →
      ∀ r, s.reader = some r → r.closed = false →
        (∀ a, a.wanted ≠ none → s.reading a = some (.failed (.stream cause))) ∧
        (s.parked ≠ none → s.reading .wake = some (.failed (.stream cause))) ∧
        r.available s.bridge = .error (.stream cause)) ∧
    (∀ before later, actions = before ++ .close :: later → Opened before →
      s.parked = none ∧ ∀ a, a.wanted ≠ none → s.reading a = some (.bytes [])) := by
  intro s
  have h : Records actions s := records_run settings actions
  refine ⟨?_, ?_, ?_⟩
  · intro hfound hdrop watching
    have hr : s.prepared.resolved = false := by
      rw [Bool.eq_false_iff, ne_eq, h.resolved]
      exact not_or.mpr ⟨hfound, hdrop⟩
    rw [poll_of_unresolved hr, h.opening]
  · rintro before cause later he hb r hr ho
    have hf : s.bridge.failure = some cause := by
      rw [h.failure, he, firstFailure_of_fail hb]
    refine ⟨fun a ha => reading_of_failure hr ho hf ha, wake_of_failure hr hf, ?_⟩
    rw [Reader.available, Bridge.streamFailure, hf]
    rfl
  · intro before later he hopen
    have hs : s = (((start settings).run before).step .close).run later := by
      rw [← run_concat, ← run_append, List.append_assoc, List.singleton_append, ← he]
    have hreader := (records_run settings before).reader.mpr hopen
    have hresolved := (resolved_start settings).run before
    have hclosed : ¬ s.Unclosed :=
      hs ▸ closed_run (hresolved.step .close) (not_unclosed_close hreader) later
    exact ⟨((poised_start settings).run (resolved_start settings) actions).parked_of_closed hclosed,
      fun a ha => reading_of_closed hclosed ha⟩

/-- A failure that comes while the first chunk is half read and another waits is what every reading
reports, whatever comes after it; told before every answer, it is how the stream opens. -/
theorem failure_amid_chunks :
    let reset : Error := .service "reset"
    let before : List Action :=
      [.answer ⟨some 3, none⟩, .subscribe "s", .poll false, .next [1, 2], .next [3], .readByte]
    let later : List Action := [.fail (.service "late"), .next [4], .finish, .answer ⟨none, none⟩]
    let s := (start {}).run (before ++ .fail reset :: later)
    let failed := (start {}).run (.fail reset :: later)
    s.waiting = [2, 3, 4] ∧ s.reading (.read 0) = some (.failed (.stream reset)) ∧
      s.reading .readByte = some (.failed (.stream reset)) ∧
      (failed.prepared.poll failed.bridge false).1 = some (.error (.stream reset)) := by
  intro reset before later s failed
  obtain ⟨-, hfail, -⟩ := first_outcome_wins {} (before ++ .fail reset :: later)
  obtain ⟨hread, -⟩ := hfail before reset later rfl (by simp [before])
    { info := ⟨some 3, none⟩, head := [2] } rfl rfl
  obtain ⟨hopen, -⟩ := first_outcome_wins {} (.fail reset :: later)
  refine ⟨rfl, hread (.read 0) nofun, hread .readByte nofun, ?_⟩
  refine hopen ?_ (by simp [later]) false
  rintro ⟨_, a, _, he, hp, -⟩
  have hm : a ∈ Action.fail reset :: later := by
    rw [he]
    simp
  simp only [later, List.mem_cons, List.not_mem_nil, or_false] at hm
  rcases hm with rfl | rfl | rfl | rfl | rfl <;> cases hp

end Session

end ResultFlow
