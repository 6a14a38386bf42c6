import ResultFlow.Proofs.Stream.Session

/-!
# Exact delivery

Over every run of a session the stream hands out what the producer told and ends where the producer
ended (`delivers_exactly`).

1. A `Transcript` is a session with its account, and `run` goes through any list of actions.
2. Each action tells the account what it does to the session, so the account of an open reader is
   intact after every run (`Sound.step`, `Reached.sound`).
3. The outcome of a reading, when it begins or when it wakes, is read off the intact account
   (`Sound.reading_cases`). A reading that waits began when there was nothing (`Reached.beganEmpty`),
   and a reader that reported the end stays silent (`silent_run`).
-/

namespace ResultFlow

/-- A session with its account. -/
structure Transcript extends Account where
  session : Session

namespace Transcript

def start (settings : StreamSettings) : Transcript := { session := .start settings }

def step (t : Transcript) (a : Session.Action) : Transcript where
  toAccount := (a.tell t.toAccount).receive (t.session.received a)
  session := t.session.step a

def run (t : Transcript) (actions : List Session.Action) : Transcript := actions.foldl step t

theorem run_concat (t : Transcript) (actions : List Session.Action) (a : Session.Action) :
    t.run (actions ++ [a]) = (t.run actions).step a := List.foldl_append

/-- What every action keeps holds after every run. -/
theorem run_induction {P : Transcript → Prop} (step : ∀ t a, P t → P (t.step a)) {t : Transcript}
    (start : P t) (actions : List Session.Action) : P (t.run actions) := by
  induction actions generalizing t with
  | nil => exact start
  | cons a actions ih => exact ih (step t a start)

/-! ## The account is intact -/

/-- The account of a session whose reader was not closed is intact. -/
structure Sound (t : Transcript) : Prop where
  resolved : t.session.Resolved
  poised : t.session.Poised
  intact : t.session.Unclosed → Intact t.toAccount t.session.current t.session.bridge.queue

theorem sound_start (settings : StreamSettings) : (start settings).Sound :=
  ⟨Session.resolved_start settings, Session.poised_start settings, fun _ => .start default⟩

theorem tell_of_reads {a : Session.Action} (ha : a.reads = true) (acc : Account) :
    a.tell acc = acc := by
  cases a with
  | read | readByte | wake => rfl
  | _ => cases ha

theorem reads_of_wanted {s : Session} {a : Session.Action} {n : Nat} (h : s.wanted a = some n) :
    a.reads = true := by
  cases a with
  | read | readByte | wake => rfl
  | _ => cases h

/-- A reading moves bytes from the session to its account. -/
theorem Sound.intact_reads {t : Transcript} (h : t.Sound) (hu : t.session.Unclosed)
    {a : Session.Action} (ha : a.reads = true) :
    Intact (t.step a).toAccount (t.session.step a).current (t.session.step a).bridge.queue := by
  have hi := h.intact hu
  rw [step, tell_of_reads ha, Session.received]
  rcases t.session.step_reading ha with ⟨hx, he⟩ | ⟨n, r, x, r', b', -, hr, hx, he, hq⟩ <;> rw [hx, he]
  · exact t.toAccount.receive_nil.symm ▸ hi
  rw [Session.current_of_some hr] at hi
  rcases hq with ⟨-, hq⟩ | ⟨-, hp, hq⟩
  · have hi' := hi.tryRead (hu r hr) n
    rw [hq] at hi'
    exact hi'
  · obtain ⟨-, r₀, hr₀, -, hh, hd⟩ := h.poised n hp
    rw [hr] at hr₀
    cases hr₀
    have hi' := hi.wake hh hd n t.session.interrupted
    rw [hq] at hi'
    exact hi'

theorem Sound.step {t : Transcript} (h : t.Sound) (a : Session.Action) : (t.step a).Sound := by
  refine ⟨h.resolved.step a, h.poised.step h.resolved a, fun hu' => ?_⟩
  have hu := Session.unclosed_of_step h.resolved hu'
  have hi := h.intact hu
  have hquiet : ∀ {r : Reader} {q : Queue}, r.head = t.session.current.head →
      r.finished = t.session.current.finished → q = t.session.bridge.queue →
        Intact (t.toAccount.receive []) r q := by
    rintro r _ hh hd rfl
    rw [Account.receive_nil]
    exact hi.of_reader hh hd
  by_cases ha : a.reads = true
  · exact h.intact_reads hu ha
  cases a with
  | answer info => exact hquiet rfl rfl rfl
  | subscribe subscription => exact hquiet rfl rfl (Bridge.subscribe_queue ..)
  | next bytes =>
    show Intact ((t.toAccount.next bytes).receive []) _ (t.session.bridge.next bytes).queue
    rw [Account.receive_nil, Bridge.next_queue]
    exact hi.next bytes
  | finish =>
    show Intact (t.toAccount.finish.receive []) _ t.session.bridge.finish.queue
    rw [Account.receive_nil]
    exact hi.finish
  | fail cause => exact hquiet rfl rfl (Bridge.fail_queue ..)
  | poll watching =>
    obtain ⟨hh, hd, hb⟩ := h.resolved.poll_current watching
    exact hquiet hh hd (congrArg Bridge.queue hb)
  | drop => exact hquiet rfl rfl (Session.drop_queue ..)
  | watch =>
    obtain ⟨hh, hd, hb⟩ := t.session.watch_current
    exact hquiet hh hd (congrArg Bridge.queue hb)
  | read | readByte | wake => exact absurd rfl ha
  | available => exact hquiet rfl rfl rfl
  | close =>
    -- only a session without a reader is still unclosed
    rcases hr : t.session.reader with _ | r
    · have hs : t.session.step .close = { t.session with parked := none } :=
        congrArg (fun s : Session => { s with parked := none }) (Session.onReader_of_none hr _)
      refine hquiet ?_ ?_ ?_ <;> rw [Transcript.step, hs] <;> rfl
    · have := hu' _ ((Session.onReader_reader ..).trans (by rw [hr]; rfl))
      rw [Session.close_closed] at this
      exact Bool.noConfusion this
  | interrupt => exact hquiet rfl rfl rfl

/-- The transcripts of all runs. -/
def Reached (t : Transcript) : Prop := ∃ settings actions, t = (start settings).run actions

theorem reached_start (settings : StreamSettings) : (start settings).Reached := ⟨settings, [], rfl⟩

theorem Reached.step {t : Transcript} (h : t.Reached) (a : Session.Action) : (t.step a).Reached := by
  obtain ⟨settings, actions, rfl⟩ := h
  exact ⟨settings, actions ++ [a], (run_concat ..).symm⟩

theorem Reached.sound {t : Transcript} (h : t.Reached) : t.Sound := by
  obtain ⟨settings, actions, rfl⟩ := h
  exact run_induction (fun t a h => h.step a) (sound_start settings) actions

theorem silent_run {t : Transcript} (hs : t.session.Resolved) (h : t.session.Silent)
    (actions : List Session.Action) : (t.run actions).session.Silent :=
  (run_induction (P := fun t => t.session.Resolved ∧ t.session.Silent)
    (fun _ a h => ⟨h.1.step a, h.2.step h.1 a⟩) ⟨hs, h⟩ actions).2

/-! ## What a reading says -/

/-- The transcript in which a reading of so many bytes waits, or none does. -/
def park (t : Transcript) (n : Option Nat) : Transcript :=
  { t with session := { t.session with parked := n } }

/-- What an action that reads up to `n` bytes says, when it is the turn of a transcript. -/
inductive Says (t : Transcript) (a : Session.Action) (n : Nat) : Reading → Prop
  | bytes {out : Bytes} (some : out ≠ []) (fits : out.length ≤ n) : Says t a n (.bytes out)
  | ended (ended : t.ended = true) (all : t.received = t.offered)
    (silent : (t.step a).session.Silent) : Says t a n (.bytes [])
  | waits (nothing : t.session.waiting = []) (more : t.ended = false)
    (same : t.step a = t.park (some n)) : Says t a n .blocked
  | interrupted (interrupted : t.session.interrupted = true) (parked : t.session.parked = some n)
    (nothing : t.session.current.head = []) (same : t.step a = t.park none) :
    Says t a n (.failed .streamInterrupted)

/-- A reading of at least one byte in a reached session whose reader is open, while no failure is
recorded. -/
theorem Sound.says {t : Transcript} (h : t.Sound) (hc : t.session.Unclosed)
    (hf : t.session.bridge.failure = none) {a : Session.Action} {n : Nat}
    (ha : t.session.wanted a = some n) (hn : n ≠ 0) {x : Reading}
    (hx : t.session.reading a = some x) : t.Says a n x := by
  have hreads := reads_of_wanted ha
  rcases t.session.step_reading hreads with ⟨hx', -⟩ | ⟨m, r, x', r', b', ha', hr, hx', hs, hq⟩
  · rw [hx] at hx'
    cases hx'
  rw [hx] at hx'
  cases hx'
  rw [ha] at ha'
  cases ha'
  have hcur := Session.current_of_some hr
  have hi := h.intact hc
  rw [hcur] at hi
  -- a reading that hands out nothing leaves the account alone
  have hquiet : x.received = [] → (r', b') = (r, t.session.bridge) →
      t.step a = t.park (if x = .blocked then some n else none) := by
    rintro hv hb
    cases hb
    rw [Transcript.step, tell_of_reads hreads, Session.received, hx, hs, ← hr]
    show Transcript.mk (t.toAccount.receive x.received) _ = _
    rw [hv, Account.receive_nil]
    rfl
  have hfinds : Intact.Finds t.toAccount r t.session.bridge n (x, r', b') → t.Says a n x := by
    intro hfinds
    cases hfinds with
    | bytes hout hlen => exact .bytes hout hlen
    | ended hend hall hh hd =>
      refine .ended hend hall ⟨?_, r', ?_, .inr ⟨hh, hd⟩⟩ <;> rw [Transcript.step, hs]
      rfl
    | nothing hw hend =>
      refine .waits ?_ hend (hquiet rfl rfl)
      rw [Session.waiting, hcur]
      exact hw
  rcases hq with ⟨-, hq⟩ | ⟨-, hp, hq⟩
  · exact hfinds (hq ▸ hi.tryRead_finds (hc r hr) hf hn)
  · obtain ⟨-, r₀, hr₀, -, hh, hd⟩ := h.poised n hp
    rw [hr] at hr₀
    cases hr₀
    rcases Reader.wake_cases hf n t.session.interrupted with ⟨hwatched, he⟩ | he
    · rw [hq] at he
      cases he
      exact .interrupted (Bool.and_eq_true _ _ ▸ hwatched).2 hp (hcur ▸ hh) (hquiet rfl rfl)
    · exact hfinds (hq ▸ he ▸ hi.readNext_finds hh hd hn)

/-! ## Where a reading that waits began -/

/-- A reading of `n` bytes began when no byte that was told was left to read, and since then no other
reading began. -/
def BeganEmpty (t : Transcript) (n : Nat) : Prop :=
  ∃ (before : Transcript) (a : Session.Action) (during : List Session.Action),
    before.Reached ∧ before.session.waiting = [] ∧ a.wanted = some n ∧
      t = (before.step a).run during ∧ ∀ b ∈ during, b.wanted = none

theorem BeganEmpty.step {t : Transcript} {n : Nat} (h : t.BeganEmpty n) {a : Session.Action}
    (ha : a.wanted = none) : (t.step a).BeganEmpty n := by
  obtain ⟨before, b, during, hb, hw, hn, rfl, hd⟩ := h
  refine ⟨before, b, during ++ [a], hb, hw, hn, (run_concat ..).symm, ?_⟩
  simpa [or_imp, forall_and] using ⟨hd, ha⟩

theorem wanted_of_not_reads {a : Session.Action} (h : a.reads = false) : a.wanted = none := by
  cases a with
  | read | readByte => cases h
  | _ => rfl

/-- A reading that waits began when there was nothing to read. -/
theorem Reached.beganEmpty {t : Transcript} (h : t.Reached) {n : Nat}
    (hp : t.session.parked = some n) : t.BeganEmpty n := by
  obtain ⟨settings, actions, rfl⟩ := h
  refine (run_induction (P := fun t => t.Reached ∧ ∀ n, t.session.parked = some n → t.BeganEmpty n)
    ?_ ⟨reached_start settings, nofun⟩ actions).2 n hp
  rintro t a ⟨ht, ih⟩
  refine ⟨ht.step a, fun n hp => ?_⟩
  cases ha : a.reads with
  | false => exact (ih n (Session.parked_of_step ha hp)).step (wanted_of_not_reads ha)
  | true =>
    rcases t.session.step_reading ha with ⟨hx, he⟩ | ⟨m, r, x, r', b', -, hr, hx, he, hq⟩
    · -- there is a reader, so only waking does nothing
      have hp' : t.session.parked = some n := (congrArg Session.parked he).symm.trans hp
      obtain ⟨-, r, hr, -⟩ := ht.sound.poised n hp'
      refine (ih n hp').step ?_
      rcases hm : a.wanted with _ | m
      · rfl
      · rw [Session.reading_of_wanted hr hm] at hx
        cases hx
    · obtain ⟨hblocked, rfl⟩ :=
        Session.parked_eq_some ((congrArg Session.parked he).symm.trans hp)
      rcases hq with ⟨hn, -⟩ | ⟨hn, hparked, -⟩
      · exact ⟨t, a, [], ht, Session.waiting_of_blocked hn (hblocked ▸ hx), hn, rfl, nofun⟩
      · exact (ih m hparked).step hn

end Transcript

end ResultFlow
