import ResultFlow.Proofs.Cursor.Failure
import ResultFlow.Proofs.Cursor.Uses
import ResultFlow.Proofs.Occurrence

/-!
# Requests

The requests of a run form one chain. Each asks for the page that the last loaded page named, and is
sent only when its rows are used up and it named one; the first pages are asked for without a token
until one comes.

1. An `Exchange` is a request that reached the service with the page that was loaded for it.
   `Cursor.Sends` says when an action has one; `exchanges_of_sends` says which.
2. `Linked` ties a cursor to the exchanges so far, and every action keeps it (`Linked.perform`).
3. Main statement: the exchanges of any run of uses are the requests that reached the service, and
   each follows those before it.
-/

namespace ResultFlow

variable {σ : Type}

/-- A request that reached the service. -/
structure Exchange (σ : Type) where
  /-- The cursor when the request was sent. -/
  cursor : Cursor σ
  request : PageRequest
  /-- The page that was loaded for the request, if one was. -/
  page : Option Page

/-- The page that was loaded last. -/
def lastPage (exchanges : List (Exchange σ)) : Option Page :=
  (exchanges.filterMap (·.page)).getLast?

theorem lastPage_concat (exchanges : List (Exchange σ)) (x : Exchange σ) :
    lastPage (exchanges ++ [x]) = x.page.or (lastPage exchanges) := by
  unfold lastPage
  rw [List.filterMap_append]
  cases h : x.page <;> simp [h]

/-- A request for a query follows the exchanges before it: it is for the page that the last loaded
page named, or for the first one, and is sent when it is needed. -/
structure Exchange.Follows (query : String) (before : List (Exchange σ)) (x : Exchange σ) :
    Prop where
  request : x.request =
    ⟨query, (lastPage before).bind (·.next), x.cursor.settings.fetchSize⟩
  size : 1 ≤ x.request.maxRows ∧ x.request.maxRows ≤ maxFetchSize
  isOpen : x.cursor.closed = false
  /-- No row of the loaded page is ahead. -/
  usedUp : x.cursor.queued = []
  /-- The last page was not the last of the result. -/
  named : ∀ p, lastPage before = some p → p.next.isSome = true

namespace Cursor

variable {c : Cursor σ} {a : Action}

/-! ## The request of an action -/

/-- The requests that an action adds to those that reached the service, with what they brought. -/
def exchanges (c : Cursor σ) (a : Action) : List (Exchange σ) :=
  ((c.perform a).calls.sent.drop c.calls.sent.length).map
    fun r => ⟨c, r, (c.loads a).head?.map (·.page)⟩

/-- The next request would reach the service: its size is accepted, and its call is not given up
before it starts. -/
def MaySend (c : Cursor σ) : Prop :=
  (1 ≤ c.settings.fetchSize ∧ c.settings.fetchSize ≤ maxFetchSize) ∧
    c.calls.misses c.watching = false

/-- An action sends a request. -/
def Sends (c : Cursor σ) (a : Action) : Prop :=
  c.closed = false ∧ c.fetches a = true ∧ c.MaySend

theorem fetch_query (c : Cursor σ) : c.fetch.2.query = c.query :=
  (Calls.fetch_interrupted c.calls c.token c.settings.fetchSize c.settings.pageTimeout
    c.watching).1

theorem fetch_of_maySend (h : c.MaySend) : c.fetch.2.sent = c.calls.sent ++ [c.request] := by
  have hp : c.calls.prepare c.token c.settings.fetchSize = .ok c.request := by
    unfold Calls.prepare
    rw [checkFetchSize_of_le h.1]
    rfl
  obtain ⟨events, he⟩ := Calls.fetch_of_sent hp h.2 c.settings.pageTimeout
  rw [fetch, he]
  rfl

theorem fetch_of_not_maySend (h : ¬ c.MaySend) :
    c.fetch.2.sent = c.calls.sent ∧ ∃ e, c.fetch.1 = .error e := by
  unfold fetch
  rcases Calls.fetch_cases c.calls c.token c.settings.fetchSize c.settings.pageTimeout c.watching
    with ⟨e, -, he⟩ | ⟨r, events, -, -, he⟩ | ⟨r, events, hp, hb, he⟩
  · rw [he]
    exact ⟨rfl, e, rfl⟩
  · rw [he]
    exact ⟨rfl, Calls.exists_verdict_silence ..⟩
  · refine absurd ⟨?_, hb⟩ h
    rcases checkFetchSize_cases c.settings.fetchSize with ⟨e, hs⟩ | ⟨-, hs⟩
    · rw [Calls.prepare, hs] at hp
      cases hp
    · exact hs

/-- What an action that asks for a page does: the fetch fails and only the calls change, or a page
is loaded, on which a move steps. -/
theorem perform_calls (ho : c.closed = false) (hf : c.fetches a = true) :
    (c.perform a).calls.sent = c.fetch.2.sent ∧ (c.perform a).query = c.fetch.2.query := by
  cases hr : c.fetch.1 with
  | error e =>
    rw [perform_of_fails ho ⟨hf, e, hr⟩]
    exact ⟨rfl, rfl⟩
  | ok p => rcases perform_of_page ho hf hr with ⟨-, he⟩ | ⟨-, he⟩ <;> rw [he] <;> exact ⟨rfl, rfl⟩

/-- The page that an action loads is the one that its fetch brings. -/
theorem loads_of_fetches (hf : c.fetches a = true) :
    (c.loads a).head?.map (·.page) = c.fetch.1.toOption := by
  cases a with
  | advance =>
    have hn : c.needsPage = true := hf
    rw [loads, arrival, if_pos hn]
    show _ = (c.calls.fetch ..).1.toOption
    cases (c.calls.fetch c.token c.settings.fetchSize c.settings.pageTimeout c.watching).1 <;> rfl
  | metadata =>
    obtain ⟨hm, hn⟩ := Bool.and_eq_true_iff.mp hf
    rw [loads, if_pos hm, arrival, if_pos hn]
    show _ = (c.calls.fetch ..).1.toOption
    cases (c.calls.fetch c.token c.settings.fetchSize c.settings.pageTimeout c.watching).1 <;> rfl
  | cell _ | setFetchSize _ | position | rowNumber | interrupt => cases hf

/-- An action that sends has one exchange: the request for the next page. -/
theorem exchanges_of_sends (h : c.Sends a) :
    c.exchanges a = [⟨c, c.request, c.fetch.1.toOption⟩] := by
  obtain ⟨ho, hf, hs⟩ := h
  rw [exchanges, (perform_calls ho hf).1, fetch_of_maySend hs, List.drop_left,
    ← loads_of_fetches hf]
  rfl

/-- Any other action has none. -/
theorem sent_of_not_sends (h : ¬ c.Sends a) : (c.perform a).calls.sent = c.calls.sent := by
  by_cases ho : c.closed = true
  · rcases perform_of_closed ho a with he | he <;> rw [he]
    rfl
  have ho := Bool.eq_false_iff.mpr ho
  have hnot : c.fetches a = true → ¬ c.MaySend := fun hf hs => h ⟨ho, hf, hs⟩
  rcases perform_cases ho a with ⟨hf, he⟩ | ⟨p, hf, hp, -⟩ | ⟨-, ⟨-, he⟩ | ⟨n, -, -, he⟩ |
    ⟨-, he⟩ | ⟨-, he⟩⟩
  · rw [he]
    exact (fetch_of_not_maySend (hnot hf.1)).1
  · obtain ⟨-, e, he⟩ := fetch_of_not_maySend (hnot hf)
    rw [he] at hp
    cases hp
  all_goals exact congrArg (·.calls.sent) he

theorem exchanges_of_not_sends (h : ¬ c.Sends a) : c.exchanges a = [] := by
  rw [exchanges, sent_of_not_sends h, List.drop_length, List.map_nil]

theorem exchanges_of_not_fetches (h : c.fetches a = false) : c.exchanges a = [] :=
  exchanges_of_not_sends fun hs => Bool.false_ne_true (h.symm.trans hs.2.1)

theorem length_exchanges_le (c : Cursor σ) (a : Action) : (c.exchanges a).length ≤ 1 := by
  by_cases h : c.Sends a
  · rw [exchanges_of_sends h]
    exact Nat.le_refl 1
  · rw [exchanges_of_not_sends h]
    exact Nat.zero_le 1

/-- The exchanges of actions in turn. -/
def exchangesAll : Cursor σ → List Action → List (Exchange σ)
  | _, [] => []
  | c, a :: actions => c.exchanges a ++ (c.perform a).exchangesAll actions

theorem length_exchangesAll_le (c : Cursor σ) (actions : List Action) :
    (c.exchangesAll actions).length ≤ actions.length := by
  induction actions generalizing c with
  | nil => exact Nat.le_refl 0
  | cons a actions ih =>
    have h1 := length_exchanges_le c a
    have h2 := ih (c.perform a)
    rw [exchangesAll, List.length_append, List.length_cons]
    omega

/-! ## What every action keeps -/

/-- The exchanges are the requests for a query that reached the service after earlier ones, in a
chain, and while the cursor is open it is on the page that was loaded last. -/
structure Linked (query : String) (earlier : List PageRequest) (c : Cursor σ)
    (exchanges : List (Exchange σ)) : Prop where
  about : c.query = query
  sent : c.calls.sent = earlier ++ exchanges.map (·.request)
  chained : Throughout (Exchange.Follows query) exchanges
  token : c.closed = false → c.token = (lastPage exchanges).bind (·.next)
  unloaded : c.closed = false → c.ahead = none → lastPage exchanges = none

namespace Linked

variable {query : String} {earlier : List PageRequest} {xs : List (Exchange σ)} {d : Cursor σ}

/-- A change that touches neither the requests nor the page. -/
theorem of_same (h : Linked query earlier c xs) (hq : d.query = c.query)
    (hs : d.calls.sent = c.calls.sent) (hc : d.closed = false → c.closed = false)
    (ht : d.closed = false → d.token = c.token)
    (ha : d.closed = false → d.ahead = none → c.ahead = none) : Linked query earlier d xs where
  about := hq.trans h.about
  sent := hs.trans h.sent
  chained := h.chained
  token hd := (ht hd).trans (h.token (hc hd))
  unloaded hd hn := h.unloaded (hc hd) (ha hd hn)

/-- The request of an action that sends follows the exchanges so far. -/
theorem follows (h : Linked query earlier c xs) (hs : c.Sends a) (page : Option Page) :
    Exchange.Follows query xs ⟨c, c.request, page⟩ := by
  obtain ⟨ho, hf, hsize, -⟩ := hs
  have hn : c.needsPage = true := by
    cases a with
    | advance => exact hf
    | metadata => exact (Bool.and_eq_true_iff.mp hf).2
    | cell _ | setFetchSize _ | position | rowNumber | interrupt => cases hf
  refine ⟨?_, hsize, ho, ?_, ?_⟩
  · show c.request = _
    rw [← h.token ho, ← h.about]
    rfl
  · show c.queued = []
    rcases needsPage_cases hn with ⟨ha, -⟩ | ⟨ha, -⟩ <;> rw [queued, ha] <;> rfl
  · intro p hp
    rcases needsPage_cases hn with ⟨ha, -⟩ | ⟨-, ht⟩
    · rw [h.unloaded ho ha] at hp
      cases hp
    · rw [h.token ho, hp] at ht
      exact ht

/-- A request that brings no page leaves the cursor where it was. -/
theorem sent_in_vain (h : Linked query earlier c xs) (hs : c.Sends a) :
    Linked query earlier { c with calls := c.fetch.2 } (xs ++ [⟨c, c.request, none⟩]) where
  about := (fetch_query c).trans h.about
  sent := by
    show c.fetch.2.sent = _
    rw [fetch_of_maySend hs.2.2, h.sent, List.map_append, List.append_assoc]
    rfl
  chained := h.chained.concat (h.follows hs none)
  token ho := by
    rw [lastPage_concat]
    exact h.token ho
  unloaded ho ha := by
    rw [lastPage_concat]
    exact h.unloaded ho ha

/-- A page that is loaded is the one that the next request goes on from. -/
theorem loaded (h : Linked query earlier c xs) (hs : c.Sends a) (p : Page) :
    Linked query earlier ({ c with calls := c.fetch.2 }.load p)
      (xs ++ [⟨c, c.request, some p⟩]) where
  about := (fetch_query c).trans h.about
  sent := (h.sent_in_vain hs).sent.trans (by simp)
  chained := h.chained.concat (h.follows hs (some p))
  token _ := by
    rw [lastPage_concat]
    rfl
  unloaded _ ha := by cases ha

theorem step (h : Linked query earlier c xs) : Linked query earlier c.step xs :=
  h.of_same rfl rfl id (fun _ => rfl) fun _ => Option.map_eq_none_iff.mp

/-- Every action keeps the chain and adds its exchanges to it. -/
theorem perform (h : Linked query earlier c xs) (a : Action) :
    Linked query earlier (c.perform a) (xs ++ c.exchanges a) := by
  by_cases hs : c.Sends a
  · rw [exchanges_of_sends hs]
    rcases perform_cases hs.1 a with ⟨⟨-, e, hr⟩, he⟩ | ⟨p, -, hp, ⟨-, he⟩ | ⟨-, he⟩⟩ | ⟨hf, -⟩
    · rw [he, hr]
      exact h.sent_in_vain hs
    · rw [he, hp]
      exact (h.loaded hs p).step
    · rw [he, hp]
      exact h.loaded hs p
    · exact absurd (hf.symm.trans hs.2.1) Bool.false_ne_true
  · rw [exchanges_of_not_sends hs, List.append_nil]
    have hsent := sent_of_not_sends hs
    by_cases ho : c.closed = true
    · rcases perform_of_closed ho a with he | he <;> rw [he]
      · exact h
      · exact h.of_same rfl rfl id (fun _ => rfl) fun _ => id
    have ho := Bool.eq_false_iff.mpr ho
    rcases perform_cases ho a with ⟨-, he⟩ | ⟨p, hf, hp, -⟩ | ⟨-, ⟨-, he⟩ | ⟨n, -, -, he⟩ |
      ⟨-, he⟩ | ⟨-, he⟩⟩
    · rw [he] at hsent ⊢
      exact h.of_same (fetch_query c) hsent id (fun _ => rfl) fun _ => id
    · obtain ⟨-, e, he⟩ := fetch_of_not_maySend fun hm => hs ⟨ho, hf, hm⟩
      rw [he] at hp
      cases hp
    · rw [he]
      exact h.step
    · rw [he]
      exact h.of_same rfl rfl id (fun _ => rfl) fun _ => id
    · rw [he]
      exact h.of_same rfl rfl id (fun _ => rfl) fun _ => id
    · rw [he]
      exact h

theorem performAll (h : Linked query earlier c xs) (actions : List Action) :
    Linked query earlier (c.performAll actions) (xs ++ c.exchangesAll actions) := by
  induction actions generalizing c xs with
  | nil =>
    rw [exchangesAll, List.append_nil]
    exact h
  | cons a actions ih =>
    rw [exchangesAll, ← List.append_assoc]
    exact ih (h.perform a)

theorem close (h : Linked query earlier c xs) : Linked query earlier c.close xs := by
  by_cases ho : c.closed = true
  · rw [Cursor.close, if_pos ho]
    exact h
  · rw [Cursor.close, if_neg ho]
    exact h.of_same rfl rfl nofun nofun nofun

end Linked

/-- A fetch size that would be accepted stays one. -/
theorem fetchSize_performAll (h : 1 ≤ c.settings.fetchSize ∧ c.settings.fetchSize ≤ maxFetchSize)
    (actions : List Action) :
    1 ≤ (c.performAll actions).settings.fetchSize ∧
      (c.performAll actions).settings.fetchSize ≤ maxFetchSize := by
  induction actions generalizing c with
  | nil => exact h
  | cons a actions ih =>
    refine ih ?_
    by_cases ho : c.closed = true
    · rcases perform_of_closed ho a with he | he <;> rw [he] <;> exact h
    rcases perform_cases (Bool.eq_false_iff.mpr ho) a with ⟨-, he⟩ |
      ⟨p, -, -, ⟨-, he⟩ | ⟨-, he⟩⟩ | ⟨-, ⟨-, he⟩ | ⟨n, hn, -, he⟩ | ⟨-, he⟩ | ⟨-, he⟩⟩ <;> rw [he]
    · exact h
    · exact h
    · exact h
    · exact h
    · exact hn
    · exact h
    · exact h

/-- A closed cursor sends nothing. -/
theorem exchangesAll_of_closed (h : c.closed = true) (actions : List Action) :
    c.exchangesAll actions = [] := by
  induction actions generalizing c with
  | nil => rfl
  | cons a actions ih =>
    have hs : ¬ c.Sends a := fun hs => Bool.false_ne_true (hs.1.symm.trans h)
    rw [exchangesAll, exchanges_of_not_sends hs, List.nil_append]
    exact ih (closed_performAll h [a])

end Cursor

/-! ## Runs of uses -/

namespace ResultSet

open Cursor (exchanges_of_not_fetches length_exchangesAll_le movesTried_le)

/-- The most requests that an operation sends. -/
def Operation.limit {α : Type} : Operation α → Nat
  | next | get _ _ | getByLabel _ _ | findColumn _ | metadata => 1
  | relative rows => rows.toNat
  | jump _ | position | isBeforeFirst | isFirst | isLast | isAfterLast | row | wasNull | fetchSize
  | setFetchSize _ | fetchDirection | setFetchDirection _ | isClosed | close => 0

/-- The most requests that a use sends. -/
def Use.limit : Use → Nat
  | operation op => op.limit
  | action .advance | action .metadata => 1
  | action (.cell _) | action (.setFetchSize _) | action .position | action .rowNumber
  | action .interrupt => 0

/-- A use sends no more requests than its limit. -/
theorem Use.length_exchanges_le (u : Use) (s : ResultSet σ) :
    (s.cursor.exchangesAll (u.actions s)).length ≤ u.limit := by
  have hle := length_exchangesAll_le s.cursor (u.actions s)
  have hnone : ∀ a, s.cursor.fetches a = false → (s.cursor.exchangesAll [a]).length = 0 := by
    intro a ha
    rw [Cursor.exchangesAll, exchanges_of_not_fetches ha]
    rfl
  cases u with
  | operation op =>
    cases op with
    | relative rows =>
      have htried := movesTried_le rows.toNat s.cursor
      refine Nat.le_trans hle ?_
      simp only [Use.actions, Operation.actions]
      split
      · exact Nat.zero_le _
      · rw [List.length_replicate]
        exact htried
    | get read index =>
      refine Nat.le_trans hle ?_
      simp only [Use.actions, Operation.actions]
      split
      · exact Nat.le_refl 1
      · exact Nat.zero_le 1
    | setFetchSize size => exact Nat.le_of_eq (hnone _ rfl)
    | _ => exact hle
  | action a =>
    cases a with
    | advance | metadata => exact hle
    | cell _ | setFetchSize _ | position | rowNumber | interrupt => exact Nat.le_of_eq (hnone _ rfl)

end ResultSet

/-- A result set with the exchanges that its uses had. -/
structure Traffic (σ : Type) where
  set : ResultSet σ
  exchanges : List (Exchange σ) := []

namespace Traffic

open ResultSet (Use)

/-- A result set that was not used yet. -/
def start (calls : Calls σ) (settings : CursorSettings) (watching : Bool) : Traffic σ :=
  { set := { cursor := { calls, settings, watching } } }

def step (t : Traffic σ) (u : Use) : Traffic σ where
  set := u.perform t.set
  exchanges := t.exchanges ++ t.set.cursor.exchangesAll (u.actions t.set)

def run (t : Traffic σ) (uses : List Use) : Traffic σ := uses.foldl step t

/-- What every use keeps holds after every run. -/
theorem run_induction {P : Traffic σ → Prop} (step : ∀ t u, P t → P (t.step u)) {t : Traffic σ}
    (start : P t) (uses : List Use) : P (t.run uses) := by
  induction uses generalizing t with
  | nil => exact start
  | cons u uses ih => exact ih (step t u start)

/-- The cursor and the exchanges are linked, and an accepted fetch size stays accepted. -/
structure Sound (calls : Calls σ) (settings : CursorSettings) (t : Traffic σ) : Prop where
  linked : t.set.cursor.Linked calls.query calls.sent t.exchanges
  size : (1 ≤ settings.fetchSize ∧ settings.fetchSize ≤ maxFetchSize) →
    1 ≤ t.set.cursor.settings.fetchSize ∧ t.set.cursor.settings.fetchSize ≤ maxFetchSize

variable {calls : Calls σ} {settings : CursorSettings} {t : Traffic σ}

theorem sound_start (calls : Calls σ) (settings : CursorSettings) (watching : Bool) :
    Sound calls settings (start calls settings watching) where
  linked := ⟨rfl, (List.append_nil _).symm, throughout_nil, fun _ => rfl, fun _ _ => rfl⟩
  size := id

theorem step_of_closes {u : Use} (hu : u.closes = true) :
    (t.step u).set.cursor = t.set.cursor.close ∧ (t.step u).exchanges = t.exchanges := by
  refine ⟨Use.perform_of_closes hu t.set, ?_⟩
  cases u with
  | operation op =>
    cases op with
    | close => exact List.append_nil _
    | _ => cases hu
  | action a => cases hu

theorem Sound.step (h : Sound calls settings t) (u : Use) : Sound calls settings (t.step u) := by
  cases hu : u.closes with
  | true =>
    obtain ⟨hc, hx⟩ := step_of_closes (t := t) hu
    refine ⟨?_, ?_⟩
    · rw [hc, hx]
      exact h.linked.close
    · rw [hc, t.set.cursor.close_eq.2]
      exact h.size
  | false =>
    have hc : (t.step u).set.cursor = t.set.cursor.performAll (u.actions t.set) :=
      Use.perform_cursor hu t.set
    refine ⟨?_, ?_⟩
    · rw [hc]
      exact h.linked.performAll _
    · rw [hc]
      exact fun hs => Cursor.fetchSize_performAll (h.size hs) _

/-- After the result is closed nothing is sent. -/
theorem exchanges_run_of_closed (h : t.set.cursor.closed = true) (later : List Use) :
    (t.run later).exchanges = t.exchanges := by
  induction later generalizing t with
  | nil => rfl
  | cons u later ih =>
    rw [run, List.foldl_cons, ← run, ih (Use.closed_perform h u), Traffic.step,
      Cursor.exchangesAll_of_closed h, List.append_nil]

/-- **One lazy chain of requests.** The requests of a run of uses are those of its exchanges, in
order. Each is for the query, with the token that the last loaded page named, or without one before
the first page, and with the fetch size of the moment, which is accepted; and when it is sent the
result is open, no row of the loaded page is ahead, and that page named another. No use sends more
requests than its limit, and after closing none is sent. -/
theorem requests_form_one_chain (calls : Calls σ) (settings : CursorSettings) (watching : Bool)
    (uses : List Use) :
    let t := (start calls settings watching).run uses
    t.set.cursor.calls.sent = calls.sent ++ t.exchanges.map (·.request) ∧
    Throughout (Exchange.Follows calls.query) t.exchanges ∧
    (∀ u, (t.step u).exchanges.length ≤ t.exchanges.length + u.limit) ∧
    (t.set.cursor.closed = true → ∀ later, (t.run later).exchanges = t.exchanges) ∧
    ((1 ≤ settings.fetchSize ∧ settings.fetchSize ≤ maxFetchSize) →
      1 ≤ t.set.cursor.settings.fetchSize ∧ t.set.cursor.settings.fetchSize ≤ maxFetchSize) := by
  intro t
  have h : Sound calls settings t :=
    run_induction (fun _ u h => h.step u) (sound_start calls settings watching) uses
  refine ⟨h.linked.sent, h.linked.chained, fun u => ?_, exchanges_run_of_closed, h.size⟩
  have hle := u.length_exchanges_le t.set
  rw [step, List.length_append]
  omega

/-- A first request fails, then two pages are loaded, the first for its columns and the second by a
move over several rows. After an interruption one more request is seen, as its call starts at once,
and the next call is given up before it starts; closed, the result sends nothing. -/
theorem requests_for_two_pages :
    let row (text : String) : Row := ⟨[some text]⟩
    let replies : List Service.Reply := [⟨.failure (.service "busy"), false⟩,
      ⟨.page { next := some "t2", rows := [row "col1", row "a"] }, false⟩,
      ⟨.page { next := some "t3", rows := [row "b"] }, false⟩]
    let calls : Calls (List Service.Reply) :=
      { query := "Q1", service := .script, state := replies,
        starts := [.awaited, .awaited, .awaited, .atOnce] }
    let uses : List Use := [.operation .next, .operation (.setFetchSize 10),
      .operation (.setFetchSize 0), .operation .metadata, .operation (.relative 2),
      .action .interrupt, .operation .next, .operation .next, .operation .close]
    let t := (start calls {} true).run uses
    let sent : List PageRequest := [⟨"Q1", none, 1000⟩, ⟨"Q1", none, 10⟩, ⟨"Q1", some "t2", 10⟩,
      ⟨"Q1", some "t3", 10⟩]
    t.exchanges.map (·.request) = sent ∧ t.set.cursor.calls.sent = sent ∧
      Throughout (Exchange.Follows "Q1") t.exchanges ∧
      (t.run [.operation .next, .operation .metadata]).exchanges = t.exchanges := by
  intro row replies calls uses t sent
  have hx : t.exchanges.map (·.request) = sent := by decide +kernel
  have hc : t.set.cursor.closed = true := by decide +kernel
  obtain ⟨hsent, hchain, -, hclosed, -⟩ := requests_form_one_chain calls {} true uses
  refine ⟨hx, ?_, hchain, hclosed hc _⟩
  rw [hsent, hx]
  rfl

end Traffic

end ResultFlow
