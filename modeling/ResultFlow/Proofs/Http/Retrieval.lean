import ResultFlow.Proofs.Http.Pump

/-!
# Retrievals

A retrieval as its subscriber sees it. Its task tells the answer of the store, subscribes, and works
as a pump. Under every schedule the subscriber is told a part of one story from its start, not more
pieces than it asked for, and at most one thing after a cancellation (`keeps_to_demand`).

1. `Retrieval.Sound` says how far the story is told at each stage; every step keeps it
   (`Sound.step`), and so every schedule does.
2. `Retrieval.Capped` holds once the task is cancelled, and from then on (`Capped.run`).
3. What a download tells at once is told under one of the schedules (`exists_run_of_tell`).
-/

namespace ResultFlow

theorem Producer.holding_of_step? {p q : Producer} {c : Callback} (h : p.step? = some (c, q)) :
    q.holding = false := by
  unfold step? at h
  split at h
  · cases h
  obtain ⟨held, -, hd⟩ := Option.bind_eq_some_iff.mp h
  obtain ⟨-, -, ⟨bytes, ahead, -, -, rfl⟩ | ⟨-, -, rfl⟩⟩ := deliver?_eq_some hd
  · rfl
  · rfl

theorem Producer.holding_foldl_request (requests : List Nat) (p : Producer) :
    (requests.foldl Producer.request p).holding = p.holding := by
  induction requests generalizing p with
  | nil => rfl
  | cons n requests ih => exact ih (p.request n)

theorem Producer.run_of_none {p : Producer} (h : p.step? = none) : p.run = ([], p) := by
  rw [run]
  split
  · rfl
  · rename_i h'
    rw [h] at h'
    cases h'

theorem Producer.run_of_some {p q : Producer} {c : Callback} (h : p.step? = some (c, q)) :
    p.run = (c :: q.run.1, q.run.2) := by
  rw [run]
  split
  · rename_i h'
    rw [h] at h'
    cases h'
  · rename_i h'
    rw [h] at h'
    cases h'
    rfl

namespace Http

/-- The outcome with its value changed. -/
def Outcome.map {α β : Type} (f : α → β) : Outcome α → Outcome β
  | .ok a => .ok (f a)
  | .error e => .error e
  | .panic p => .panic p

/-- How far the task of a retrieval is. -/
inductive Retrieval.Stage
  /-- What the request came to is not told yet. -/
  | opening (outcome : Outcome (ObjectInfo × Producer))
  /-- The object could not be opened. -/
  | failed
  | answered (p : Producer)
  | pumping (u : Pump)

/-- A retrieval under way. -/
structure Retrieval where
  stage : Retrieval.Stage
  /-- What the subscriber was told. -/
  notices : List Notice := []
  /-- The sum of the amounts that it requested. -/
  asked : Nat := 0

namespace Retrieval

/-- A step of the task, or an action of the subscriber. -/
inductive Move
  | pump
  /-- The task sees that it is cancelled. It need not see this before the next piece. -/
  | stop
  | request (n : Nat)
  | cancel
  deriving DecidableEq

/-- The request for an object has come to something, and nothing is told yet. -/
def start {τ : Type} (d : Download τ) (url : String) (outcome : Outcome Response) : Retrieval where
  stage := .opening (outcome.map fun r => (Download.infoOf r, d.producerOf url r))

/-- The next step of the task, if it need not wait. A panic is not told. -/
def pump (r : Retrieval) : Retrieval :=
  match r.stage with
  | .opening (.panic _) => { r with stage := .failed }
  | .opening (.error e) =>
    { r with stage := .failed, notices := r.notices ++ [.told (.fail e)] }
  | .opening (.ok (info, p)) =>
    { r with stage := .answered p, notices := r.notices ++ [.answered info] }
  | .failed => r
  | .answered p => { r with stage := .pumping ⟨p, false⟩, notices := r.notices ++ [.subscribed] }
  | .pumping u =>
    match u.step? with
    | some (c, v) =>
      { r with stage := .pumping v, notices := r.notices ++ (c.map Notice.told).toList }
    | none => r

/-- A step. What a subscriber does needs the subscription that it is told of. -/
def step (r : Retrieval) (m : Move) : Retrieval :=
  match m, r.stage with
  | .pump, _ => r.pump
  | .stop, .pumping u => { r with stage := .pumping u.stop }
  | .request n, .pumping u => { r with stage := .pumping (u.request n), asked := r.asked + n }
  | .cancel, .pumping u => { r with stage := .pumping u.cancel }
  | _, _ => r

def run (r : Retrieval) (moves : List Move) : Retrieval := moves.foldl step r

/-- The number of pieces that were told. -/
def pieces (r : Retrieval) : Nat := r.notices.countP Notice.isPiece

/-- All that there is to tell of an object: a failure to open it, unless it is a panic; or the answer,
the subscription, the pieces of the body in order, and how it ends. -/
def story : Outcome Response → List Notice
  | .panic _ => []
  | .error e => [.told (.fail e)]
  | .ok r => [.answered (Download.infoOf r), .subscribed] ++
      r.body.pieces.map (fun bytes => .told (.next bytes)) ++
      [.told (if r.body.intact then .finish else .fail (.foreign bodyError))]

/-! ## The story so far -/

/-- The subscriber was told the story up to where the task is. -/
def Sound {τ : Type} (d : Download τ) (url : String) (outcome : Outcome Response) (r : Retrieval) :
    Prop :=
  match r.stage with
  | .opening o =>
    o = outcome.map (fun x => (Download.infoOf x, d.producerOf url x)) ∧ r.notices = [] ∧ r.asked = 0
  | .failed => r.notices = story outcome
  | .answered p => ∃ x, outcome = .ok x ∧ p = d.producerOf url x ∧
      r.notices = [.answered (Download.infoOf x)] ∧ r.asked = 0
  | .pumping u => u.Sound (story outcome) r.notices r.asked

variable {τ : Type} {d : Download τ} {url : String} {outcome : Outcome Response} {r : Retrieval}

theorem Sound.pump (h : r.Sound d url outcome) : r.pump.Sound d url outcome := by
  obtain ⟨stage, notices, asked⟩ := r
  cases stage with
  | opening o =>
    obtain ⟨rfl, rfl, rfl⟩ := h
    cases outcome with
    | panic p => exact rfl
    | error e => exact rfl
    | ok x => exact ⟨x, rfl, rfl, rfl, rfl⟩
  | failed => exact h
  | answered p =>
    obtain ⟨x, rfl, rfl, rfl, rfl⟩ := h
    refine Pump.Sound.of_whole ?_ fun _ => rfl
    show _ = story (.ok x)
    unfold story Pump.rest Producer.ending Download.producerOf
    dsimp only
    cases x.body.intact <;> rfl
  | pumping u =>
    unfold Retrieval.pump
    dsimp only
    cases hs : u.step? with
    | none => exact h
    | some x => exact Pump.Sound.step h hs

theorem Sound.step (h : r.Sound d url outcome) (m : Move) : (r.step m).Sound d url outcome := by
  cases m with
  | pump => exact h.pump
  | stop =>
    obtain ⟨stage, notices, asked⟩ := r
    cases stage with
    | pumping u => exact Pump.Sound.stop h
    | opening _ | failed | answered _ => exact h
  | request n =>
    obtain ⟨stage, notices, asked⟩ := r
    cases stage with
    | pumping u => exact Pump.Sound.request h n
    | opening _ | failed | answered _ => exact h
  | cancel =>
    obtain ⟨stage, notices, asked⟩ := r
    cases stage with
    | pumping u => exact Pump.Sound.cancel h
    | opening _ | failed | answered _ => exact h

theorem Sound.run (h : r.Sound d url outcome) (moves : List Move) :
    (r.run moves).Sound d url outcome := by
  induction moves generalizing r with
  | nil => exact h
  | cons m moves ih => exact ih (h.step m)

theorem Sound.pumping (h : r.Sound d url outcome) {u : Pump} (hu : r.stage = .pumping u) :
    u.Sound (story outcome) r.notices r.asked := by
  unfold Sound at h
  rw [hu] at h
  exact h

theorem Sound.notices_isPrefix (h : r.Sound d url outcome) : r.notices <+: story outcome := by
  obtain ⟨stage, notices, asked⟩ := r
  cases stage with
  | opening o =>
    obtain ⟨-, rfl, -⟩ := h
    exact List.nil_prefix
  | failed => exact ⟨[], (List.append_nil _).trans h⟩
  | answered p =>
    obtain ⟨x, rfl, -, rfl, -⟩ := h
    exact ⟨_, rfl⟩
  | pumping u => exact Pump.Sound.within h

theorem sound_start : (start d url outcome).Sound d url outcome := ⟨rfl, rfl, rfl⟩

/-! ## After a cancellation -/

variable {n : Nat}

/-- No permits are given out, and of bounded demand at most `n` things are ever told. -/
def Capped (r : Retrieval) (n : Nat) : Prop :=
  ∃ u, r.stage = .pumping u ∧ u.producer.permits.closed = true ∧
    (u.producer.permits.unbounded = false → r.notices.length + u.owed ≤ n)

theorem Capped.step (h : r.Capped n) (m : Move) : (r.step m).Capped n := by
  obtain ⟨stage, notices, asked⟩ := r
  obtain ⟨u, rfl, hc, hle⟩ := h
  cases m with
  | pump =>
    unfold Retrieval.step Retrieval.pump
    dsimp only
    cases hs : u.step? with
    | none => exact ⟨u, rfl, hc, hle⟩
    | some x =>
      obtain ⟨c, v⟩ := x
      obtain ⟨hc', hv⟩ := Pump.step_of_closed hc hs
      refine ⟨v, rfl, hc', fun hu => ?_⟩
      obtain ⟨hu, howed⟩ := hv hu
      have hle := hle hu
      dsimp only at hle ⊢
      rw [List.length_append, Option.toList_map, List.length_map]
      omega
  | stop =>
    refine ⟨u.stop, rfl, ?_, fun hu => ?_⟩
    · rw [u.stop_permits]
      exact hc
    · rw [u.stop_permits] at hu
      exact Nat.le_trans (Nat.add_le_add_left u.owed_stop_le _) (hle hu)
  | request k =>
    refine ⟨u.request k, rfl, (Permits.request_closed k).trans hc, fun hu => ?_⟩
    exact hle (Permits.available_request hu).1
  | cancel => exact ⟨u.cancel, rfl, rfl, hle⟩

theorem Capped.run (h : r.Capped n) (moves : List Move) : (r.run moves).Capped n := by
  induction moves generalizing r with
  | nil => exact h
  | cons m moves ih => exact ih (h.step m)

/-- Once the task was cancelled, at most one more thing is told of bounded demand. -/
theorem capped_cancel {u : Pump} (hu : r.stage = .pumping u) :
    (r.step .cancel).Capped (r.notices.length + 1) := by
  obtain ⟨stage, notices, asked⟩ := r
  obtain rfl : stage = .pumping u := hu
  exact ⟨u.cancel, rfl, rfl, fun _ => Nat.add_le_add_left u.cancel.owed_le _⟩

/-! ## Every schedule -/

/-- The task of a retrieval waits for demand. -/
def Waits (r : Retrieval) : Prop := ∃ u, r.stage = .pumping u ∧ u.Waits

theorem pump_waits_iff {u : Pump} (hu : r.stage = .pumping u) : r.pump.Waits ↔ u.next.Waits := by
  obtain ⟨stage, notices, asked⟩ := r
  obtain rfl : stage = .pumping u := hu
  unfold Waits Retrieval.pump Pump.next
  dsimp only
  cases u.step? with
  | none =>
    constructor
    · rintro ⟨v, he, hw⟩
      cases he
      exact hw
    · intro hw
      exact ⟨u, rfl, hw⟩
  | some x =>
    constructor
    · rintro ⟨v, he, hw⟩
      cases he
      exact hw
    · intro hw
      exact ⟨x.2, rfl, hw⟩

/-- The end of the body is told after all of it. -/
theorem finish_of_story {notices : List Notice} {outcome : Outcome Response}
    (h : notices <+: story outcome) (hf : .told .finish ∈ notices) :
    ∃ response, outcome = .ok response ∧ response.body.intact = true ∧ notices = story outcome := by
  cases outcome with
  | panic p => cases h.subset hf
  | error e =>
    have hmem := h.subset hf
    unfold story at hmem
    simp at hmem
  | ok response =>
    refine ⟨response, rfl, ?_⟩
    unfold story at h ⊢
    rcases List.prefix_concat_iff.mp h with he | hp
    · refine ⟨?_, he⟩
      rw [he] at hf
      cases hi : response.body.intact with
      | true => rfl
      | false => simp [hi] at hf
    · have hmem := hp.subset hf
      simp at hmem

/-- Under every schedule the subscriber is told a part of one story from its start: a failure to
open the object, if it is no panic; or the answer, the subscription, the pieces of the body in order,
and how it ends. The end of the body is told only after all of it. While the demand is bounded, not
more pieces are told than were asked for; the task, if it runs and is not cancelled, waits, at most
after a look at the demand, exactly when as many are told; and once it is cancelled, at most one more
thing is told. -/
theorem keeps_to_demand {τ : Type} (d : Download τ) (url : String) (outcome : Outcome Response)
    (moves : List Move) :
    let r := (start d url outcome).run moves
    r.notices <+: story outcome ∧
    (.told .finish ∈ r.notices →
      ∃ response, outcome = .ok response ∧ response.body.intact = true ∧ r.notices = story outcome) ∧
    ∀ u, r.stage = .pumping u →
      (u.producer.permits.unbounded = false →
        r.pieces ≤ r.asked ∧
        (u.producer.stopped = false → u.producer.permits.closed = false →
          (r.pump.Waits ↔ r.pieces = r.asked))) ∧
      ∀ later v, ((r.step .cancel).run later).stage = .pumping v →
        v.producer.permits.unbounded = false →
        ((r.step .cancel).run later).notices.length ≤ r.notices.length + 1 := by
  intro r
  have h : r.Sound d url outcome := sound_start.run moves
  have hstory : r.notices <+: story outcome := h.notices_isPrefix
  refine ⟨hstory, finish_of_story hstory, fun u hu => ⟨?_, ?_⟩⟩
  · intro hb
    have h := h.pumping hu
    constructor
    · have := h.covered hb
      unfold pieces
      omega
    · intro hr hc
      rw [pump_waits_iff hu]
      exact h.waits_iff hb hr hc
  · intro later v hv hb
    obtain ⟨w, hw, -, hle⟩ := (capped_cancel hu).run later
    rw [hw] at hv
    cases hv
    exact Nat.le_trans (Nat.le_add_right _ _) (hle hb)

/-- An object of two pieces: with one requested the task waits after it; with three requested the end
is told; and a task that is cancelled with a permit at hand may tell one more piece. -/
theorem keeps_to_demand_two :
    let d : Download Unit := ⟨⟨{}, .bearer "token", fun _ => true⟩, ⟨0⟩⟩
    let begun := start d "http://store/object" (.ok ⟨200, [], { pieces := [[1], [2]] }⟩)
    let piece := [Move.pump, .pump, .pump]
    let one := begun.run ([.pump, .pump, .request 1] ++ piece)
    let all := begun.run ([.pump, .pump, .request 3] ++ piece ++ piece ++ piece)
    let held := begun.run [.pump, .pump, .request 3, .pump, .pump]
    (one.notices = [.answered ⟨none, none⟩, .subscribed, .told (.next [1])] ∧ one.pump.Waits) ∧
    (all.notices = [.answered ⟨none, none⟩, .subscribed, .told (.next [1]), .told (.next [2]),
      .told .finish] ∧ all.notices = story (.ok ⟨200, [], { pieces := [[1], [2]] }⟩)) ∧
    held.notices = [.answered ⟨none, none⟩, .subscribed] ∧
    ((held.step .cancel).run (piece ++ [.stop])).notices =
      [.answered ⟨none, none⟩, .subscribed, .told (.next [1])] ∧
    ((held.step .cancel).run (piece ++ [.stop])).notices.length ≤ held.notices.length + 1 := by
  intro d begun piece one all held
  have hone := keeps_to_demand d "http://store/object"
    (.ok ⟨200, [], { pieces := [[1], [2]] }⟩) ([.pump, .pump, .request 1] ++ piece)
  have hall := keeps_to_demand d "http://store/object"
    (.ok ⟨200, [], { pieces := [[1], [2]] }⟩) ([.pump, .pump, .request 3] ++ piece ++ piece ++ piece)
  have hheld := keeps_to_demand d "http://store/object"
    (.ok ⟨200, [], { pieces := [[1], [2]] }⟩) [.pump, .pump, .request 3, .pump, .pump]
  refine ⟨⟨rfl, ?_⟩, ⟨rfl, ?_⟩, rfl, rfl, ?_⟩
  · exact (((hone.2.2 _ rfl).1 rfl).2 rfl rfl).mpr rfl
  · obtain ⟨response, -, -, h⟩ := hall.2.1 (by decide)
    exact h
  · exact (hheld.2.2 _ rfl).2 (piece ++ [.stop]) _ rfl rfl

/-! ## The schedule without waiting -/

theorem run_append (r : Retrieval) (moves later : List Move) :
    r.run (moves ++ later) = (r.run moves).run later := List.foldl_append

theorem pump_of_step {u v : Pump} {c : Option Callback} (hr : u.producer.stopped = false)
    (hs : u.Step c v) (notices : List Notice) (asked : Nat) :
    (⟨.pumping u, notices, asked⟩ : Retrieval).step .pump =
      ⟨.pumping v, notices ++ (c.map Notice.told).toList, asked⟩ := by
  unfold step Retrieval.pump
  dsimp only
  rw [Pump.step?_eq_some_iff.mpr ⟨hr, hs⟩]

/-- What a producer tells in one go, its task tells step by step. -/
theorem exists_run_of_step? {p q : Producer} {c : Callback} (h : p.step? = some (c, q))
    (hh : p.holding = false) (notices : List Notice) (asked : Nat) :
    ∃ moves, (⟨.pumping ⟨p, false⟩, notices, asked⟩ : Retrieval).run moves =
      ⟨.pumping ⟨q, false⟩, notices ++ [.told c], asked⟩ := by
  unfold Producer.step? at h
  split at h
  · cases h
  obtain ⟨held, ha, hd⟩ := Option.bind_eq_some_iff.mp h
  unfold Producer.acquire? at ha
  split at ha
  · cases ha
  rename_i hr
  have hr := Bool.eq_false_iff.mpr hr
  rw [if_neg (Bool.eq_false_iff.mp hh)] at ha
  obtain ⟨permits, hp, rfl⟩ := Option.map_eq_some_iff.mp ha
  have hdeliver : ∀ notices, (⟨.pumping ⟨{ p with permits, holding := true }, false⟩, notices,
      asked⟩ : Retrieval).step .pump = ⟨.pumping ⟨q, false⟩, notices ++ [.told c], asked⟩ := by
    intro notices
    obtain ⟨-, -, ⟨bytes, ahead, hleft, rfl, rfl⟩ | ⟨hleft, rfl, rfl⟩⟩ :=
      Producer.deliver?_eq_some hd
    · exact pump_of_step hr (.next rfl hleft) notices asked
    · exact pump_of_step hr (.last rfl hleft) notices asked
  rw [Permits.acquire?_eq] at hp
  by_cases hu : p.permits.unbounded = true
  · rw [if_pos hu] at hp
    cases hp
    refine ⟨[.pump, .pump], ?_⟩
    show (Retrieval.step _ .pump).step .pump = _
    rw [pump_of_step hr (.pass hh rfl hu), hdeliver]
    simp
  · rw [if_neg hu] at hp
    refine ⟨[.pump, .pump, .pump], ?_⟩
    show ((Retrieval.step _ .pump).step .pump).step .pump = _
    rw [pump_of_step hr (.commit hh rfl (Bool.eq_false_iff.mpr hu)), pump_of_step hr (.take hh rfl hp),
      hdeliver]
    simp

/-- All that a producer tells for the demand so far, its task tells. -/
theorem exists_run (p : Producer) (hh : p.holding = false) (notices : List Notice) (asked : Nat) :
    ∃ moves, (⟨.pumping ⟨p, false⟩, notices, asked⟩ : Retrieval).run moves =
      ⟨.pumping ⟨p.run.2, false⟩, notices ++ p.run.1.map .told, asked⟩ := by
  induction p using Producer.run.induct generalizing notices with
  | case1 p hs =>
    refine ⟨[], ?_⟩
    rw [Producer.run_of_none hs, List.map_nil, List.append_nil]
    rfl
  | case2 p c q hs cs last hq ih =>
    obtain ⟨first, hfirst⟩ := exists_run_of_step? hs hh notices asked
    obtain ⟨more, hmore⟩ := ih (Producer.holding_of_step? hs) (notices ++ [.told c])
    refine ⟨first ++ more, ?_⟩
    rw [run_append, hfirst, hmore, Producer.run_of_some hs, List.map_cons, List.append_assoc]
    rfl

theorem run_requests (p : Producer) (notices : List Notice) (asked : Nat) (requests : List Nat) :
    (⟨.pumping ⟨p, false⟩, notices, asked⟩ : Retrieval).run (requests.map .request) =
      ⟨.pumping ⟨requests.foldl Producer.request p, false⟩, notices,
        requests.foldl Nat.add asked⟩ := by
  induction requests generalizing p asked with
  | nil => rfl
  | cons n requests ih => exact ih (p.request n) (asked + n)

/-- What a download tells is told under one of the schedules. -/
theorem exists_run_of_tell {τ : Type} (d : Download τ) (t : Http.Transport τ) (l : ObjectLocation)
    (requests : List Nat) (cancels : Bool) (s : τ) {info : ObjectInfo} {callbacks : List Callback}
    (h : ((d.tell t l requests cancels).run s).outcome = .ok (info, callbacks)) :
    ∃ moves, ((start d l.url ((d.fetch t l).run s).outcome).run moves).notices =
      [.answered info, .subscribed] ++ callbacks.map .told := by
  unfold Download.tell at h
  dsimp only at h
  cases hf : ((d.fetch t l).run s).outcome with
  | panic p =>
    rw [hf] at h
    cases h
  | error e =>
    rw [hf] at h
    cases h
  | ok response =>
    rw [hf] at h
    cases h
    have hh : (requests.foldl Producer.request (d.producerOf l.url response)).holding = false :=
      Producer.holding_foldl_request requests _
    generalize hp : requests.foldl Producer.request (d.producerOf l.url response) = p at hh
    have hrequests := run_requests (d.producerOf l.url response)
      [.answered (Download.infoOf response), .subscribed] 0 requests
    rw [hp] at hrequests
    have hopened : (start d l.url (.ok response)).run ([.pump, .pump] ++ requests.map .request) =
        ⟨.pumping ⟨p, false⟩, [.answered (Download.infoOf response), .subscribed],
          requests.foldl Nat.add 0⟩ := hrequests
    cases cancels with
    | false =>
      obtain ⟨moves, hmoves⟩ := exists_run p hh
        [.answered (Download.infoOf response), .subscribed] (requests.foldl Nat.add 0)
      refine ⟨[.pump, .pump] ++ requests.map .request ++ moves, ?_⟩
      rw [run_append, hopened, hmoves]
      rfl
    | true =>
      obtain ⟨moves, hmoves⟩ := exists_run p.cancel hh
        [.answered (Download.infoOf response), .subscribed] (requests.foldl Nat.add 0)
      refine ⟨[.pump, .pump] ++ requests.map .request ++ (.cancel :: moves), ?_⟩
      rw [run_append, hopened]
      exact congrArg notices hmoves

end Retrieval

end Http

end ResultFlow
