import ResultFlow.Proofs.Cursor.Run

/-!
# Fetches

Everything that a fetch of a page can do (`Calls.fetch_cases`): its number of rows is refused, the
call is given up before it starts, or a request reaches the service, and the verdict depends on the
reply and on the caller. A fetch that fails changes nothing of
a cursor but its calls (`Cursor.perform_of_fails`); `Cursor.perform_cases` says everything that an
action can do to an open cursor; and a cursor asks for the page of the same token until it has it
(`Cursor.performAll_sent`).
-/

namespace ResultFlow

namespace Calls

variable {σ : Type} (c : Calls σ)

/-- The reply of the service to a request. -/
def reply (r : PageRequest) : Service.Reply :=
  ⟨(c.service.answer r c.state).outcome, (c.service.answer r c.state).interrupts⟩

/-- What becomes of a call, by whether an interruption is noticed and how the call ends. -/
def verdict (query : String) (limit : Duration) : Bool → CallOutcome → Except Error Page
  | true, _ => .error (.pageInterrupted query)
  | false, .page p => .ok p
  | false, .failure e => .error (.pageFailed query e)
  | false, .breakdown m => .error (.pageFailed query (.foreign (breakdownText m)))
  | false, .silence => .error (.pageTimedOut query limit)

/-- The next call is given up before it starts: it starts too late, or its caller is interrupted
already and it does not start at once. -/
def misses (watching : Bool) : Bool :=
  match c.start with
  | .atOnce => false
  | .awaited => watching && c.interrupted
  | .late => true

/-- The calls when one was given up before it started. -/
def afterMiss (events : List Log.Event) : Calls σ := { c with starts := c.starts.tail, events }

/-- The calls after a request reached the service. -/
def afterSend (r : PageRequest) (events : List Log.Event) : Calls σ :=
  { c with
    state := (c.service.answer r c.state).next
    starts := c.starts.tail
    sent := c.sent ++ [r]
    interrupted := c.interrupted || (c.reply r).interrupts
    events }

/-- The calls when one more was made, for a request. -/
def called (r : PageRequest) : Calls σ :=
  { c with starts := c.starts.tail }.log (.pageRequested c.query r.token r.maxRows)

/-- No call of the list starts too late. -/
def Timely : Prop := Start.late ∉ c.starts

variable {c} in
/-- A caller who is not interrupted gives no call up that starts in time. -/
theorem misses_of_calm {watching : Bool} (h : (watching && c.interrupted) = false)
    (ht : c.Timely) : c.misses watching = false := by
  unfold misses start
  cases hs : c.starts with
  | nil => exact h
  | cons first rest =>
    cases first with
    | atOnce => rfl
    | awaited => exact h
    | late => exact absurd (hs ▸ List.mem_cons_self) ht

/-- A call that is given up is not heard of. -/
theorem exists_verdict_silence (query : String) (limit : Duration) (interrupted : Bool) :
    ∃ e, verdict query limit interrupted .silence = .error e := by
  cases interrupted <;> exact ⟨_, rfl⟩

/-- A call that has started ends as its outcome says, unless the caller is interrupted. -/
theorem wait_of_started (r : PageRequest) (outcome : CallOutcome) (limit : Duration)
    (watching : Bool) : ∃ events,
    c.wait ⟨r, some outcome⟩ limit watching =
      (verdict c.query limit (watching && c.interrupted) outcome, { c with events }) := by
  unfold wait
  cases hb : watching && c.interrupted with
  | true => exact ⟨_, rfl⟩
  | false =>
    simp only [finish, hb, Bool.false_eq_true, if_false]
    cases outcome <;> exact ⟨_, rfl⟩

/-- A call that has not started does so when a caller waits who is not interrupted. -/
theorem wait_of_unstarted {watching : Bool} (hb : (watching && c.interrupted) = false)
    (r : PageRequest) (limit : Duration) :
    c.wait ⟨r, none⟩ limit watching =
      (c.send r).2.wait ⟨r, some (c.send r).1⟩ limit watching := by
  let d := (c.send r).2
  have hwait : c.wait ⟨r, none⟩ limit watching =
      if watching && d.interrupted then d.giveUp else d.settle limit (c.send r).1 :=
    if_neg (Bool.eq_false_iff.mp hb)
  rw [hwait]
  show _ = if watching && d.interrupted then d.giveUp
    else if watching && d.interrupted then d.giveUp else d.settle limit (c.send r).1
  split <;> rfl

variable {c} {token : Option String} {maxRows : Nat} {r : PageRequest}

theorem prepare_token (h : c.prepare token maxRows = .ok r) : r.token = token := by
  unfold prepare at h
  cases hs : checkFetchSize maxRows with
  | error e =>
    rw [hs] at h
    cases h
  | ok n =>
    rw [hs] at h
    cases h
    rfl

theorem fetch_of_refused {e : Error} (h : c.prepare token maxRows = .error e) (limit : Duration)
    (watching : Bool) : c.fetch token maxRows limit watching = (.error e, c) := by
  unfold fetch request
  rw [h]

/-- A call that is given up before it starts ends as if it were not heard of. -/
theorem fetch_of_missed (h : c.prepare token maxRows = .ok r) {watching : Bool}
    (hb : c.misses watching = true) (limit : Duration) : ∃ events,
    c.fetch token maxRows limit watching =
      (verdict c.query limit (watching && c.interrupted) .silence, c.afterMiss events) := by
  unfold fetch request
  simp only [h]
  unfold misses at hb
  cases hs : c.start with
  | atOnce =>
    rw [hs] at hb
    cases hb
  | awaited =>
    simp only [hs] at hb
    rw [hb]
    unfold wait
    exact ⟨_, if_pos hb⟩
  | late =>
    obtain ⟨events, he⟩ := (c.called r).wait_of_started r .silence limit watching
    exact ⟨events, he⟩

/-- A call that is not given up before it starts is sent, at once or when it is waited for. -/
theorem fetch_eq_wait (h : c.prepare token maxRows = .ok r) {watching : Bool}
    (hb : c.misses watching = false) (limit : Duration) :
    c.fetch token maxRows limit watching =
      ((c.called r).send r).2.wait ⟨r, some ((c.called r).send r).1⟩ limit watching := by
  unfold fetch request
  simp only [h]
  unfold misses at hb
  cases hs : c.start with
  | atOnce => rfl
  | awaited =>
    simp only [hs] at hb
    exact (c.called r).wait_of_unstarted hb r limit
  | late =>
    rw [hs] at hb
    cases hb

theorem fetch_of_sent (h : c.prepare token maxRows = .ok r) {watching : Bool}
    (hb : c.misses watching = false) (limit : Duration) : ∃ events,
    c.fetch token maxRows limit watching =
      (verdict c.query limit (watching && (c.interrupted || (c.reply r).interrupts))
        (c.reply r).outcome, c.afterSend r events) := by
  obtain ⟨events, he⟩ :=
    ((c.called r).send r).2.wait_of_started r ((c.called r).send r).1 limit watching
  exact ⟨events, (fetch_eq_wait h hb limit).trans he⟩

/-- The number of rows is refused, or the call is given up before it starts, or the request reaches
the service and the reply decides. -/
theorem fetch_cases (c : Calls σ) (token : Option String) (maxRows : Nat) (limit : Duration)
    (watching : Bool) :
    (∃ e, c.prepare token maxRows = .error e ∧
      c.fetch token maxRows limit watching = (.error e, c)) ∨
    (∃ r events, c.prepare token maxRows = .ok r ∧ c.misses watching = true ∧
      c.fetch token maxRows limit watching =
        (verdict c.query limit (watching && c.interrupted) .silence, c.afterMiss events)) ∨
    (∃ r events, c.prepare token maxRows = .ok r ∧ c.misses watching = false ∧
      c.fetch token maxRows limit watching =
        (verdict c.query limit (watching && (c.interrupted || (c.reply r).interrupts))
          (c.reply r).outcome, c.afterSend r events)) := by
  cases hp : c.prepare token maxRows with
  | error e => exact .inl ⟨e, rfl, fetch_of_refused hp limit watching⟩
  | ok r =>
    right
    cases hb : c.misses watching with
    | true =>
      obtain ⟨events, he⟩ := fetch_of_missed hp hb limit
      exact .inl ⟨r, events, rfl, rfl, he⟩
    | false =>
      obtain ⟨events, he⟩ := fetch_of_sent hp hb limit
      exact .inr ⟨r, events, rfl, rfl, he⟩

/-- A fetch sends one request for its token or none, and none only if it fails. -/
theorem fetch_sent (c : Calls σ) (token : Option String) (maxRows : Nat) (limit : Duration)
    (watching : Bool) :
    ((c.fetch token maxRows limit watching).2.sent = c.sent ∧
      ∃ e, (c.fetch token maxRows limit watching).1 = .error e) ∨
    ∃ r, r.token = token ∧ (c.fetch token maxRows limit watching).2.sent = c.sent ++ [r] := by
  rcases fetch_cases c token maxRows limit watching with ⟨e, -, he⟩ | ⟨r, events, -, -, he⟩ |
    ⟨r, events, hp, -, he⟩ <;> rw [he]
  · exact .inl ⟨rfl, e, rfl⟩
  · exact .inl ⟨rfl, exists_verdict_silence ..⟩
  · exact .inr ⟨r, prepare_token hp, rfl⟩

end Calls

namespace Cursor

variable {σ : Type} {c : Cursor σ}

/-! ## Actions that ask for a page -/

/-- The fetch of the next page. -/
def fetch (c : Cursor σ) : Except Error Page × Calls σ :=
  c.calls.fetch c.token c.settings.fetchSize c.settings.pageTimeout c.watching

/-- Whether an action asks for a page. -/
def fetches (c : Cursor σ) : Action → Bool
  | .advance => c.needsPage
  | .metadata => c.metadata.isNone && c.needsPage
  | .cell _ | .setFetchSize _ | .position | .rowNumber | .interrupt => false

/-- An action asks for a page and does not get it. -/
def Fails (c : Cursor σ) (a : Action) : Prop := c.fetches a = true ∧ ∃ e, c.fetch.1 = .error e

instance (c : Cursor σ) (a : Action) : Decidable (c.Fails a) :=
  match hf : c.fetches a, hr : c.fetch.1 with
  | true, .error e => .isTrue ⟨hf, e, hr⟩
  | true, .ok _ => .isFalse fun ⟨_, _, he⟩ => nomatch hr.symm.trans he
  | false, _ => .isFalse fun ⟨ht, _⟩ => nomatch hf.symm.trans ht

theorem ensurePage_of_error (hn : c.needsPage = true) {e : Error} (he : c.fetch.1 = .error e) :
    c.ensurePage = (.error e, { c with calls := c.fetch.2 }) := by
  unfold fetch at he
  unfold ensurePage fetch
  rw [if_pos hn]
  generalize c.calls.fetch c.token c.settings.fetchSize c.settings.pageTimeout c.watching = x at he
  obtain ⟨_, calls⟩ := x
  cases he
  rfl

theorem ensurePage_of_page (hn : c.needsPage = true) {p : Page} (hp : c.fetch.1 = .ok p) :
    c.ensurePage = (.ok (), { c with calls := c.fetch.2 }.load p) := by
  unfold fetch at hp
  unfold ensurePage fetch
  rw [if_pos hn]
  generalize c.calls.fetch c.token c.settings.fetchSize c.settings.pageTimeout c.watching = x at hp
  obtain ⟨_, calls⟩ := x
  cases hp
  rfl

theorem getMetadata_of_page (ho : c.closed = false) (hm : c.metadata = none)
    (hn : c.needsPage = true) {p : Page} (hp : c.fetch.1 = .ok p) :
    c.getMetadata = (.ok ⟨p.columns⟩, { c with calls := c.fetch.2 }.load p) := by
  have hd : ({ c with calls := c.fetch.2 }.load p).metadata = some ⟨p.columns⟩ :=
    load_metadata_of_none hm
  exact getMetadata_of_ensurePage ho hm (ensurePage_of_page hn hp) hd

/-- A fetch that fails changes nothing but the calls. -/
theorem perform_of_fails (ho : c.closed = false) {a : Action} (h : c.Fails a) :
    c.perform a = { c with calls := c.fetch.2 } := by
  obtain ⟨hf, e, he⟩ := h
  cases a with
  | advance => exact congrArg Prod.snd (advance_of_error ho (ensurePage_of_error hf he))
  | metadata =>
    obtain ⟨hm, hn⟩ := Bool.and_eq_true_iff.mp hf
    exact congrArg Prod.snd
      (getMetadata_of_error ho (Option.isNone_iff_eq_none.mp hm) (ensurePage_of_error hn he))
  | cell _ | setFetchSize _ | position | rowNumber | interrupt => cases hf

/-- A page that arrives goes to the cursor, before a step if the action is a move. -/
theorem perform_of_page (ho : c.closed = false) {a : Action} (hf : c.fetches a = true) {p : Page}
    (hp : c.fetch.1 = .ok p) :
    (a = .advance ∧ c.perform a = ({ c with calls := c.fetch.2 }.load p).step) ∨
    (a = .metadata ∧ c.perform a = { c with calls := c.fetch.2 }.load p) := by
  cases a with
  | advance =>
    exact .inl ⟨rfl, congrArg Prod.snd (advance_of_ensurePage ho (ensurePage_of_page hf hp))⟩
  | metadata =>
    obtain ⟨hm, hn⟩ := Bool.and_eq_true_iff.mp hf
    exact .inr ⟨rfl, congrArg Prod.snd
      (getMetadata_of_page ho (Option.isNone_iff_eq_none.mp hm) hn hp)⟩
  | cell _ | setFetchSize _ | position | rowNumber | interrupt => cases hf

/-- A look at the columns that asks for no page changes nothing. -/
theorem getMetadata_of_not_fetches (ho : c.closed = false) (hf : c.fetches .metadata = false) :
    c.getMetadata.2 = c := by
  rcases Option.eq_none_or_eq_some c.metadata with hm | ⟨m, hm⟩
  · have hn : c.needsPage = false := by
      simpa [fetches, hm] using hf
    rw [getMetadata_of_ready ho hm hn]
  · rw [getMetadata_of_some ho hm]

/-- An action on an open cursor asks for a page and fails, or loads it; or it steps, changes the
fetch size, tells the caller to stop, or only looks. -/
theorem perform_cases (ho : c.closed = false) (a : Action) :
    (c.Fails a ∧ c.perform a = { c with calls := c.fetch.2 }) ∨
    (∃ p, c.fetches a = true ∧ c.fetch.1 = .ok p ∧
      ((a = .advance ∧ c.perform a = ({ c with calls := c.fetch.2 }.load p).step) ∨
        (a = .metadata ∧ c.perform a = { c with calls := c.fetch.2 }.load p))) ∨
    (c.fetches a = false ∧
      ((a = .advance ∧ c.perform a = c.step) ∨
        (∃ n, (1 ≤ n ∧ n ≤ maxFetchSize) ∧ a = .setFetchSize n ∧
          c.perform a = { c with settings := { c.settings with fetchSize := n } }) ∨
        (a = .interrupt ∧ c.perform a = c.interrupt) ∨
        (a ≠ .advance ∧ c.perform a = c))) := by
  cases hf : c.fetches a with
  | true =>
    cases hr : c.fetch.1 with
    | error e => exact .inl ⟨⟨hf, e, hr⟩, perform_of_fails ho ⟨hf, e, hr⟩⟩
    | ok p => exact .inr (.inl ⟨p, rfl, rfl, perform_of_page ho hf hr⟩)
  | false =>
    refine .inr (.inr ⟨rfl, ?_⟩)
    cases a with
    | advance =>
      refine .inl ⟨rfl, ?_⟩
      rw [perform, advance_of_ensurePage ho (ensurePage_of_ready hf)]
    | metadata => exact .inr (.inr (.inr ⟨by simp, getMetadata_of_not_fetches ho hf⟩))
    | setFetchSize n =>
      rw [perform]
      rcases setFetchSize_cases ho n with ⟨e, he⟩ | ⟨hn, he⟩ <;> rw [he]
      · exact .inr (.inr (.inr ⟨by simp, rfl⟩))
      · exact .inr (.inl ⟨n, hn, rfl, rfl⟩)
    | interrupt => exact .inr (.inr (.inl ⟨rfl, rfl⟩))
    | cell _ | position | rowNumber => exact .inr (.inr (.inr ⟨by simp, rfl⟩))

theorem perform_closed (ho : c.closed = false) (a : Action) : (c.perform a).closed = false := by
  rcases perform_cases ho a with ⟨-, he⟩ | ⟨p, -, -, ⟨-, he⟩ | ⟨-, he⟩⟩ |
    ⟨-, ⟨-, he⟩ | ⟨n, -, -, he⟩ | ⟨-, he⟩ | ⟨-, he⟩⟩ <;> rw [he] <;> exact ho

theorem performAll_closed (ho : c.closed = false) (actions : List Action) :
    (c.performAll actions).closed = false := by
  induction actions generalizing c with
  | nil => exact ho
  | cons a actions ih => exact ih (perform_closed ho a)

/-! ## The requests of a run -/

/-- The fetch of a cursor sends one request for its token or none, and none only if it fails. -/
theorem fetch_sent (c : Cursor σ) :
    (c.fetch.2.sent = c.calls.sent ∧ ∃ e, c.fetch.1 = .error e) ∨
    ∃ r, r.token = c.token ∧ c.fetch.2.sent = c.calls.sent ++ [r] := Calls.fetch_sent ..

/-- An action leaves the requests and the token alone, or sends one request for the token. -/
theorem perform_sent (ho : c.closed = false) (a : Action) :
    ((c.perform a).calls.sent = c.calls.sent ∧ (c.perform a).token = c.token) ∨
    ∃ r, r.token = c.token ∧ (c.perform a).calls.sent = c.calls.sent ++ [r] := by
  rcases perform_cases ho a with ⟨-, he⟩ | ⟨p, -, hp, h⟩ | ⟨-, h⟩
  · rw [he]
    rcases fetch_sent c with ⟨hs, -⟩ | hr
    · exact .inl ⟨hs, rfl⟩
    · exact .inr hr
  · right
    rcases fetch_sent c with ⟨-, e, hr⟩ | hr
    · rw [hp] at hr
      cases hr
    · rcases h with ⟨-, he⟩ | ⟨-, he⟩ <;> rw [he] <;> exact hr
  · left
    rcases h with ⟨-, he⟩ | ⟨n, -, -, he⟩ | ⟨-, he⟩ | ⟨-, he⟩ <;> rw [he] <;> exact ⟨rfl, rfl⟩

/-- The first request of a run is for the token that the cursor has; without one the token stays. -/
theorem performAll_sent (ho : c.closed = false) (actions : List Action) : ∃ more,
    (c.performAll actions).calls.sent = c.calls.sent ++ more ∧
      (more = [] → (c.performAll actions).token = c.token) ∧
      ∀ r ∈ more.head?, r.token = c.token := by
  induction actions generalizing c with
  | nil => exact ⟨[], (List.append_nil _).symm, fun _ => rfl, nofun⟩
  | cons a actions ih =>
    obtain ⟨more, hsent, htoken, hfirst⟩ := ih (perform_closed ho a)
    rcases perform_sent ho a with ⟨hs, ht⟩ | ⟨r, hr, hs⟩
    · exact ⟨more, hsent.trans (by rw [hs]), fun hn => (htoken hn).trans ht,
        fun r hr => (hfirst r hr).trans ht⟩
    · refine ⟨r :: more, hsent.trans ?_, nofun, ?_⟩
      · rw [hs, List.append_assoc]
        rfl
      · rintro _ ⟨⟩
        exact hr

end Cursor

end ResultFlow
