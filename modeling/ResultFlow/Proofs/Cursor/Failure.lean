import ResultFlow.Proofs.Cursor.Fetch

/-!
# Failed fetches

A fetch that fails leaves no trace. A cursor is as it was but for its calls, and a run with extra
calls in it that fail shows what the run without them shows.

1. `Attempt` marks the extra calls of a run. `ownActions` is the run without them, `ownReplies` the
   script of the replies to it, and `ownStarts` says when its calls start; an interruption
   that came during an extra call stays.
2. `Plays` relates the calls of a run to calls of a script. A fetch gives the same on both
   (`Plays.fetch`), and so does every action (`Plays.perform`).
3. Main statement: a failed fetch changes nothing, is not seen by other calls, and is repeated with
   the same token.
-/

namespace ResultFlow

open Service (Reply)

variable {σ τ : Type}

/-! ## Replies and scripts -/

namespace Calls

/-- The reply to the request of a fetch, if one is sent. -/
def reply? (c : Calls σ) (token : Option String) (maxRows : Nat) (watching : Bool) :
    Option Reply :=
  match c.prepare token maxRows with
  | .error _ => none
  | .ok r => if c.misses watching then none else some (c.reply r)

/-- When the call of a fetch starts, if one is made. -/
def start? (c : Calls σ) (token : Option String) (maxRows : Nat) : Option Start :=
  (c.prepare token maxRows).toOption.map fun _ => c.start

/-- The second calls play a script of replies to the same caller, and start as a list says. -/
structure Plays (c : Calls σ) (k : Calls (List Reply)) (replies : List Reply)
    (starts : List Start) : Prop where
  query : k.query = c.query
  interrupted : k.interrupted = c.interrupted
  service : k.service = .script
  state : k.state = replies
  starts : k.starts = starts

variable {c : Calls σ} {k : Calls (List Reply)} {replies : List Reply} {starts : List Start}
  {token : Option String} {maxRows : Nat} {watching : Bool}

theorem Plays.prepare_eq (h : Plays c k replies starts) :
    k.prepare token maxRows = c.prepare token maxRows := by
  unfold prepare
  rw [h.query]

/-- A call of the script starts, or is given up, as its model does. -/
theorem Plays.misses_eq (h : Plays c k replies (c.start :: starts)) :
    k.misses watching = c.misses watching := by
  have hstart : k.start = c.start := congrArg (·.headD .awaited) h.starts
  rw [misses, misses, h.interrupted, hstart]

/-- A call that is given up before it starts uses up no reply. -/
theorem Plays.fetch_of_missed (h : Plays c k replies (c.start :: starts)) {r : PageRequest}
    (hp : c.prepare token maxRows = .ok r) (hb : c.misses watching = true) (limit : Duration) :
    (k.fetch token maxRows limit watching).1 = (c.fetch token maxRows limit watching).1 ∧
      Plays (c.fetch token maxRows limit watching).2 (k.fetch token maxRows limit watching).2
        replies starts := by
  obtain ⟨events, he⟩ := Calls.fetch_of_missed hp hb limit
  obtain ⟨events', he'⟩ := Calls.fetch_of_missed (h.prepare_eq.trans hp) (h.misses_eq.trans hb) limit
  have htail : k.starts.tail = starts := congrArg List.tail h.starts
  rw [he, he']
  exact ⟨by rw [h.query, h.interrupted], h.query, h.interrupted, h.service, h.state, htail⟩

/-- A call that is sent gets its reply from the script. -/
theorem Plays.fetch_of_sent {r : PageRequest}
    (h : Plays c k (c.reply r :: replies) (c.start :: starts))
    (hp : c.prepare token maxRows = .ok r) (hb : c.misses watching = false) (limit : Duration) :
    (k.fetch token maxRows limit watching).1 = (c.fetch token maxRows limit watching).1 ∧
      Plays (c.fetch token maxRows limit watching).2 (k.fetch token maxRows limit watching).2
        replies starts := by
  obtain ⟨events, he⟩ := Calls.fetch_of_sent hp hb limit
  obtain ⟨events', he'⟩ := Calls.fetch_of_sent (h.prepare_eq.trans hp) (h.misses_eq.trans hb) limit
  have htail : k.starts.tail = starts := congrArg List.tail h.starts
  have hreply : k.reply r = c.reply r := by
    unfold reply
    rw [h.service, h.state]
    rfl
  have hnext : (k.service.answer r k.state).next = replies := by
    rw [h.service, h.state]
    rfl
  have hinterrupted : (k.interrupted || (k.reply r).interrupts) =
      (c.interrupted || (c.reply r).interrupts) := by
    rw [h.interrupted, hreply]
  rw [he, he']
  refine ⟨?_, h.query, hinterrupted, h.service, hnext, htail⟩
  rw [h.query, hinterrupted, hreply]

/-- A fetch ends as the replies say, and uses up its own. -/
theorem Plays.fetch (h : Plays c k ((c.reply? token maxRows watching).toList ++ replies)
      ((c.start? token maxRows).toList ++ starts)) (limit : Duration) :
    (k.fetch token maxRows limit watching).1 = (c.fetch token maxRows limit watching).1 ∧
      Plays (c.fetch token maxRows limit watching).2 (k.fetch token maxRows limit watching).2
        replies starts := by
  unfold reply? start? at h
  cases hp : c.prepare token maxRows with
  | error e =>
    rw [hp] at h
    rw [fetch_of_refused hp, fetch_of_refused (h.prepare_eq.trans hp)]
    exact ⟨rfl, h⟩
  | ok r =>
    rw [hp] at h
    dsimp only at h
    cases hb : c.misses watching with
    | true =>
      rw [if_pos hb] at h
      exact h.fetch_of_missed hp hb limit
    | false =>
      rw [if_neg (Bool.eq_false_iff.mp hb)] at h
      exact h.fetch_of_sent hp hb limit

/-- A fetch leaves the query alone, and an interruption comes with a reply. -/
theorem fetch_interrupted (c : Calls σ) (token : Option String) (maxRows : Nat) (limit : Duration)
    (watching : Bool) :
    (c.fetch token maxRows limit watching).2.query = c.query ∧
      (c.fetch token maxRows limit watching).2.interrupted =
        (c.interrupted || (c.reply? token maxRows watching).any (·.interrupts)) := by
  unfold reply?
  rcases fetch_cases c token maxRows limit watching with ⟨e, hp, he⟩ | ⟨r, events, hp, hb, he⟩ |
    ⟨r, events, hp, hb, he⟩ <;> rw [he, hp]
  · exact ⟨rfl, (Bool.or_false _).symm⟩
  · refine ⟨rfl, ?_⟩
    simp only [hb, if_true, Option.any_none, Bool.or_false]
    rfl
  · refine ⟨rfl, ?_⟩
    simp only [hb, Bool.false_eq_true, if_false, Option.any_some]
    rfl

end Calls

namespace Cursor

/-! ## What a caller sees of a run -/

/-- What a call shows. -/
inductive Observation
  | moved (answer : Except Error Bool)
  | columns (answer : Except Error Metadata)
  | cell (answer : Except Error Cell)
  | resized (answer : Except Error Unit)
  | position (answer : Except Error Position)
  | rowNumber (answer : Except Error Nat)

/-- What an action shows; an interruption is no call. -/
def observe (c : Cursor σ) : Action → Option Observation
  | .advance => some (.moved c.advance.1)
  | .metadata => some (.columns c.getMetadata.1)
  | .cell index => some (.cell (c.cell index))
  | .setFetchSize size => some (.resized (c.setFetchSize size).1)
  | .position => some (.position c.position)
  | .rowNumber => some (.rowNumber c.getRowNumber)
  | .interrupt => none

/-- What a run shows. -/
def observations : Cursor σ → List Action → List Observation
  | _, [] => []
  | c, a :: actions => (c.observe a).toList ++ (c.perform a).observations actions

/-- An action of a run, or an extra call between the actions. -/
inductive Attempt
  | own (a : Action)
  | extra (a : Action)

/-- The reply to the request of an action, if it sends one. -/
def reply? (c : Cursor σ) (a : Action) : Option Reply :=
  if c.fetches a then c.calls.reply? c.token c.settings.fetchSize c.watching else none

/-- When the call of an action starts, if it makes one. -/
def start? (c : Cursor σ) (a : Action) : Option Start :=
  if c.fetches a then c.calls.start? c.token c.settings.fetchSize else none

/-- Every extra call asks for a page and does not get it. -/
def ExtrasFail : Cursor σ → List Attempt → Prop
  | _, [] => True
  | c, .own a :: rest => (c.perform a).ExtrasFail rest
  | c, .extra a :: rest => c.Fails a ∧ (c.perform a).ExtrasFail rest

instance decidableExtrasFail (c : Cursor σ) (attempts : List Attempt) :
    Decidable (c.ExtrasFail attempts) :=
  match attempts with
  | [] => .isTrue trivial
  | .own a :: rest => decidableExtrasFail (c.perform a) rest
  | .extra a :: rest =>
    have := decidableExtrasFail (c.perform a) rest
    inferInstanceAs (Decidable (_ ∧ _))

/-- What the actions show, without the extra calls. -/
def ownObservations : Cursor σ → List Attempt → List Observation
  | _, [] => []
  | c, .own a :: rest => (c.observe a).toList ++ (c.perform a).ownObservations rest
  | c, .extra a :: rest => (c.perform a).ownObservations rest

/-- The replies to the actions, without those to the extra calls. -/
def ownReplies : Cursor σ → List Attempt → List Reply
  | _, [] => []
  | c, .own a :: rest => (c.reply? a).toList ++ (c.perform a).ownReplies rest
  | c, .extra a :: rest => (c.perform a).ownReplies rest

/-- For the calls of the actions, without the extra ones, when they start. -/
def ownStarts : Cursor σ → List Attempt → List Start
  | _, [] => []
  | c, .own a :: rest => (c.start? a).toList ++ (c.perform a).ownStarts rest
  | c, .extra a :: rest => (c.perform a).ownStarts rest

/-- The actions without the extra calls. A caller who was told to stop during one stays so. -/
def ownActions : Cursor σ → List Attempt → List Action
  | _, [] => []
  | c, .own a :: rest => a :: (c.perform a).ownActions rest
  | c, .extra a :: rest =>
    (if (c.reply? a).any (·.interrupts) then [.interrupt] else []) ++ (c.perform a).ownActions rest

/-! ## The same cursor over other calls -/

/-- The cursor with its calls made elsewhere. -/
def withCalls (c : Cursor σ) (calls : Calls τ) : Cursor τ where
  calls := calls
  settings := c.settings
  watching := c.watching
  rowNumber := c.rowNumber
  ahead := c.ahead
  row := c.row
  token := c.token
  metadata := c.metadata
  closed := c.closed

variable {c : Cursor σ} {k : Calls (List Reply)} {replies : List Reply} {starts : List Start}

/-- The second calls play the replies to an action and to what follows. -/
def PlaysFor (c : Cursor σ) (a : Action) (k : Calls (List Reply)) (replies : List Reply)
    (starts : List Start) : Prop :=
  c.calls.Plays k ((c.reply? a).toList ++ replies) ((c.start? a).toList ++ starts)

theorem plays_fetch {a : Action} (hf : c.fetches a = true)
    (h : c.PlaysFor a k replies starts) :
    (c.withCalls k).fetch.1 = c.fetch.1 ∧
      c.fetch.2.Plays (c.withCalls k).fetch.2 replies starts := by
  unfold PlaysFor reply? start? at h
  rw [if_pos hf, if_pos hf] at h
  exact h.fetch c.settings.pageTimeout

theorem plays_of_not_fetches {a : Action} (hf : c.fetches a = false)
    (h : c.PlaysFor a k replies starts) : c.calls.Plays k replies starts := by
  unfold PlaysFor reply? start? at h
  rw [hf, if_neg Bool.false_ne_true, if_neg Bool.false_ne_true] at h
  exact h

theorem plays_advance (ho : c.closed = false)
    (h : c.PlaysFor .advance k replies starts) : ∃ k',
    (c.withCalls k).advance = (c.advance.1, c.advance.2.withCalls k') ∧
      c.advance.2.calls.Plays k' replies starts := by
  have ho' : (c.withCalls k).closed = false := ho
  cases hn : c.needsPage with
  | false =>
    have hn' : (c.withCalls k).needsPage = false := hn
    have hplays := plays_of_not_fetches (a := .advance) hn h
    rw [advance_of_ensurePage ho (ensurePage_of_ready hn),
      advance_of_ensurePage ho' (ensurePage_of_ready hn')]
    exact ⟨k, rfl, hplays⟩
  | true =>
    have hn' : (c.withCalls k).needsPage = true := hn
    obtain ⟨hfetch, hplays⟩ := plays_fetch (a := .advance) hn h
    cases hr : c.fetch.1 with
    | error e =>
      rw [advance_of_error ho (ensurePage_of_error hn hr),
        advance_of_error ho' (ensurePage_of_error hn' (hfetch.trans hr))]
      exact ⟨_, rfl, hplays⟩
    | ok p =>
      rw [advance_of_ensurePage ho (ensurePage_of_page hn hr),
        advance_of_ensurePage ho' (ensurePage_of_page hn' (hfetch.trans hr))]
      exact ⟨_, rfl, hplays.query, hplays.interrupted, hplays.service, hplays.state,
        hplays.starts⟩

theorem plays_getMetadata (ho : c.closed = false)
    (h : c.PlaysFor .metadata k replies starts) : ∃ k',
    (c.withCalls k).getMetadata = (c.getMetadata.1, c.getMetadata.2.withCalls k') ∧
      c.getMetadata.2.calls.Plays k' replies starts := by
  have ho' : (c.withCalls k).closed = false := ho
  rcases Option.eq_none_or_eq_some c.metadata with hm | ⟨m, hm⟩
  · have hm' : (c.withCalls k).metadata = none := hm
    cases hn : c.needsPage with
    | false =>
      have hn' : (c.withCalls k).needsPage = false := hn
      have hf : c.fetches .metadata = false := by
        simp [fetches, hn]
      rw [getMetadata_of_ready ho hm hn, getMetadata_of_ready ho' hm' hn']
      exact ⟨k, rfl, plays_of_not_fetches hf h⟩
    | true =>
      have hn' : (c.withCalls k).needsPage = true := hn
      have hf : c.fetches .metadata = true := by
        simp [fetches, hm, hn]
      obtain ⟨hfetch, hplays⟩ := plays_fetch hf h
      cases hr : c.fetch.1 with
      | error e =>
        rw [getMetadata_of_error ho hm (ensurePage_of_error hn hr),
          getMetadata_of_error ho' hm' (ensurePage_of_error hn' (hfetch.trans hr))]
        exact ⟨_, rfl, hplays⟩
      | ok p =>
        rw [getMetadata_of_page ho hm hn hr,
          getMetadata_of_page ho' hm' hn' (hfetch.trans hr)]
        exact ⟨_, rfl, hplays.query, hplays.interrupted, hplays.service, hplays.state,
        hplays.starts⟩
  · have hm' : (c.withCalls k).metadata = some m := hm
    have hf : c.fetches .metadata = false := by
      simp [fetches, hm]
    rw [getMetadata_of_some ho hm, getMetadata_of_some ho' hm']
    exact ⟨k, rfl, plays_of_not_fetches hf h⟩

theorem setFetchSize_withCalls (ho : c.closed = false) (size : Nat) :
    (c.withCalls k).setFetchSize size =
        ((c.setFetchSize size).1, (c.setFetchSize size).2.withCalls k) ∧
      (c.setFetchSize size).2.calls = c.calls := by
  have ho' : (c.withCalls k).closed = false := ho
  unfold setFetchSize
  rw [if_neg (Bool.eq_false_iff.mp ho), if_neg (Bool.eq_false_iff.mp ho')]
  cases checkFetchSize size with
  | error e => exact ⟨rfl, rfl⟩
  | ok n => exact ⟨rfl, rfl⟩

/-- Every action shows the same over a script of the replies to it. -/
theorem plays_perform (ho : c.closed = false) (a : Action)
    (h : c.PlaysFor a k replies starts) : ∃ k',
    (c.withCalls k).perform a = (c.perform a).withCalls k' ∧
      (c.perform a).calls.Plays k' replies starts ∧ (c.withCalls k).observe a = c.observe a := by
  cases a with
  | advance =>
    obtain ⟨k', he, hp⟩ := plays_advance ho h
    exact ⟨k', congrArg Prod.snd he, hp, by rw [observe, he]; rfl⟩
  | metadata =>
    obtain ⟨k', he, hp⟩ := plays_getMetadata ho h
    exact ⟨k', congrArg Prod.snd he, hp, by rw [observe, he]; rfl⟩
  | setFetchSize size =>
    obtain ⟨he, hcalls⟩ := setFetchSize_withCalls ho size (k := k)
    refine ⟨k, congrArg Prod.snd he, ?_, by rw [observe, he]; rfl⟩
    rw [perform, hcalls]
    exact plays_of_not_fetches (a := .setFetchSize size) rfl h
  | interrupt =>
    have h := plays_of_not_fetches (a := .interrupt) rfl h
    exact ⟨k.interrupt, rfl, ⟨h.query, rfl, h.service, h.state, h.starts⟩, rfl⟩
  | cell index => exact ⟨k, rfl, plays_of_not_fetches (a := .cell index) rfl h, rfl⟩
  | position => exact ⟨k, rfl, plays_of_not_fetches (a := .position) rfl h, rfl⟩
  | rowNumber => exact ⟨k, rfl, plays_of_not_fetches (a := .rowNumber) rfl h, rfl⟩

/-- A failed call does to the calls what an interruption does that came during it. -/
theorem plays_of_fails (ho : c.closed = false) {a : Action} (hf : c.Fails a)
    (h : c.calls.Plays k replies starts) :
    (c.perform a).calls.Plays (if (c.reply? a).any (·.interrupts) then k.interrupt else k)
      replies starts := by
  obtain ⟨hquery, hinterrupted⟩ := Calls.fetch_interrupted c.calls c.token c.settings.fetchSize
    c.settings.pageTimeout c.watching
  rw [perform_of_fails ho hf, reply?, if_pos hf.1]
  split
  · rename_i hi
    rw [hi, Bool.or_true] at hinterrupted
    exact ⟨h.query.trans hquery.symm, hinterrupted.symm, h.service, h.state, h.starts⟩
  · rename_i hi
    rw [Bool.eq_false_iff.mpr hi, Bool.or_false] at hinterrupted
    exact ⟨h.query.trans hquery.symm, h.interrupted.trans hinterrupted.symm, h.service, h.state,
      h.starts⟩

/-- A run with extra calls that fail shows what the run without them shows. -/
theorem ownObservations_eq {attempts : List Attempt} {more : List Reply} {later : List Start}
    (ho : c.closed = false) (hx : c.ExtrasFail attempts)
    (h : c.calls.Plays k (c.ownReplies attempts ++ more) (c.ownStarts attempts ++ later)) :
    c.ownObservations attempts = (c.withCalls k).observations (c.ownActions attempts) := by
  -- the script is always the replies to the actions that are left
  induction attempts generalizing c k with
  | nil => rfl
  | cons attempt rest ih =>
    cases attempt with
    | own a =>
      rw [ownReplies, ownStarts, List.append_assoc, List.append_assoc] at h
      obtain ⟨k', hperform, hplays, hobserve⟩ := plays_perform ho a h
      rw [ownObservations, ownActions, observations, hobserve, hperform,
        ih (perform_closed ho a) hx hplays]
    | extra a =>
      have hplays := plays_of_fails ho hx.1 h
      have hrest := ih (perform_closed ho a) hx.2 hplays
      rw [perform_of_fails ho hx.1] at hrest
      rw [ownObservations, ownActions, perform_of_fails ho hx.1, hrest]
      split <;> rfl

/-! ## Main statement -/

/-- An error of a move leaves all but the calls alone. -/
theorem advance_of_failed (ho : c.closed = false) {e : Error} (h : c.advance.1 = .error e) :
    c.advance.2 = { c with calls := c.advance.2.calls } := by
  rcases advance_cases ho with ⟨-, -, he⟩ | ⟨p, calls, -, he⟩ | ⟨e', calls, -, -, he⟩ <;>
    rw [he] at h ⊢
  · cases h
  · cases h

theorem getMetadata_of_failed (ho : c.closed = false) {e : Error}
    (h : c.getMetadata.1 = .error e) :
    c.getMetadata.2 = { c with calls := c.getMetadata.2.calls } := by
  rcases getMetadata_cases ho with ⟨m, -, he⟩ | ⟨-, -, -, he⟩ | ⟨p, calls, -, -, he⟩ |
    ⟨e', calls, -, -, -, he⟩ <;> rw [he] at h ⊢
  cases h

/-- **A failed fetch leaves no trace.** After any run a fetch that fails, in whatever way, gives its
error to the call that needs the page and changes nothing of the cursor but its calls; and no error
changes more. Extra calls that fail change nothing of what the others show. And the next request that
reaches the service after a failed one is for the same token, also if it was given up as it
started. -/
theorem failed_fetch_leaves_no_trace (calls : Calls σ) (settings : CursorSettings)
    (watching : Bool) :
    let c₀ : Cursor σ := { calls, settings, watching }
    (∀ actions, let c := c₀.performAll actions
      (∀ e, c.fetch.1 = .error e → c.needsPage = true →
        c.advance = (.error e, { c with calls := c.fetch.2 }) ∧
          (c.metadata = none → c.getMetadata = (.error e, { c with calls := c.fetch.2 }))) ∧
      (∀ e, c.advance.1 = .error e → c.advance.2 = { c with calls := c.advance.2.calls }) ∧
      (∀ e, c.getMetadata.1 = .error e →
        c.getMetadata.2 = { c with calls := c.getMetadata.2.calls })) ∧
    (∀ attempts more later, c₀.ExtrasFail attempts →
      let script : Calls (List Reply) :=
        { query := calls.query, service := .script, state := c₀.ownReplies attempts ++ more,
          starts := c₀.ownStarts attempts ++ later, interrupted := calls.interrupted }
      c₀.ownObservations attempts =
        ({ calls := script, settings, watching } : Cursor _).observations
          (c₀.ownActions attempts)) ∧
    (∀ actions a r, let c := c₀.performAll actions
      c.Fails a → (c.perform a).calls.sent = c.calls.sent ++ [r] → ∀ later r' rest,
        ((c.perform a).performAll later).calls.sent = (c.perform a).calls.sent ++ r' :: rest →
          r'.token = r.token) := by
  intro c₀
  refine ⟨?_, fun attempts more later hx => ?_, ?_⟩
  · intro actions c
    have ho : c.closed = false := performAll_closed rfl actions
    refine ⟨fun e he hn => ⟨advance_of_error ho (ensurePage_of_error hn he),
      fun hm => getMetadata_of_error ho hm (ensurePage_of_error hn he)⟩,
      fun e he => advance_of_failed ho he, fun e he => getMetadata_of_failed ho he⟩
  · exact ownObservations_eq rfl hx ⟨rfl, rfl, rfl, rfl, rfl⟩
  · intro actions a r c hf hs later r' rest hl
    have ho : c.closed = false := performAll_closed rfl actions
    have htoken : (c.perform a).token = c.token := by
      rw [perform_of_fails ho hf]
    have hr : r.token = c.token := by
      rcases perform_sent ho a with ⟨hsame, -⟩ | ⟨r₀, hr₀, hsent⟩
      · rw [hs] at hsame
        simp at hsame
      · have := List.append_cancel_left (hs.symm.trans hsent)
        rw [List.cons.inj this |>.1]
        exact hr₀
    obtain ⟨more, hmore, -, hfirst⟩ := performAll_sent (perform_closed ho a) later
    have hcons : more = r' :: rest := List.append_cancel_left (hmore.symm.trans hl)
    rw [hfirst r' (by rw [hcons]; rfl), htoken, hr]

/-- Two pages are read beside five calls that fail: a fetch size that is refused, a failure, a
breakdown, a call that does not end, and one that starts too late. After an interruption two calls
start at once and are given up, with the token of the second page. -/
theorem failed_fetches_between_two_pages :
    let row (text : String) : Row := ⟨[some text]⟩
    let first : Page := { next := some "t2", rows := [row "col1", row "a"] }
    let second : Page := { rows := [row "b"] }
    let replies : List Reply := [⟨.failure (.service "busy"), false⟩, ⟨.page first, false⟩,
      ⟨.breakdown none, false⟩, ⟨.silence, false⟩, ⟨.page second, false⟩]
    let calls : Calls (List Reply) :=
      { query := "Q1", service := .script, state := replies,
        starts := [.awaited, .awaited, .atOnce, .atOnce, .late] }
    let c₀ : Cursor (List Reply) := { calls, settings := { fetchSize := 0 }, watching := true }
    let attempts : List Attempt :=
      [.extra .advance, .own (.setFetchSize 10), .extra .metadata, .own .advance,
        .extra .advance, .own (.cell 1), .extra .advance, .extra .advance, .own .advance,
        .own (.cell 1)]
    let script : Calls (List Reply) :=
      { query := "Q1", service := .script, state := [⟨.page first, false⟩, ⟨.page second, false⟩],
        starts := [.awaited, .awaited] }
    let c := c₀.performAll [.setFetchSize 10, .metadata, .advance, .interrupt]
    c₀.ExtrasFail attempts ∧
      c₀.ownObservations attempts =
        ({ calls := script, settings := { fetchSize := 0 }, watching := true } :
          Cursor _).observations [.setFetchSize 10, .advance, .cell 1, .advance, .cell 1] ∧
      c.Fails .advance ∧ c.needsPage = true ∧
      c.advance = (.error (.pageInterrupted "Q1"), { c with calls := c.fetch.2 }) ∧
      ∃ r r', (c.perform .advance).calls.sent = c.calls.sent ++ [r] ∧
        ((c.perform .advance).performAll [.advance]).calls.sent =
          (c.perform .advance).calls.sent ++ [r'] ∧ r'.token = r.token := by
  intro row first second replies calls c₀ attempts script c
  have hx : c₀.ExtrasFail attempts := by decide +kernel
  have hf : c.Fails .advance := by decide +kernel
  have hn : c.needsPage = true := by decide +kernel
  have hreplies : c₀.ownReplies attempts = [⟨.page first, false⟩, ⟨.page second, false⟩] := by
    decide +kernel
  have hstarts : c₀.ownStarts attempts = [.awaited, .awaited] := by decide +kernel
  have hactions : c₀.ownActions attempts =
      [.setFetchSize 10, .advance, .cell 1, .advance, .cell 1] := by decide +kernel
  have hsent : (c.perform .advance).calls.sent = c.calls.sent ++ [⟨"Q1", some "t2", 10⟩] := by
    decide +kernel
  have hlater : ((c.perform .advance).performAll [.advance]).calls.sent =
      (c.perform .advance).calls.sent ++ [⟨"Q1", some "t2", 10⟩] := by decide +kernel
  have he : c.fetch.1 = .error (.pageInterrupted "Q1") := rfl
  obtain ⟨hunchanged, hrun, hnext⟩ := failed_fetch_leaves_no_trace calls { fetchSize := 0 } true
  have hown := hrun attempts [] [] hx
  dsimp only at hown
  rw [hreplies, hstarts, hactions] at hown
  have hadvance := ((hunchanged [.setFetchSize 10, .metadata, .advance, .interrupt]).1 _ he hn).1
  have htoken := hnext [.setFetchSize 10, .metadata, .advance, .interrupt] .advance
    ⟨"Q1", some "t2", 10⟩ (by decide +kernel) (by decide +kernel) [.advance]
    ⟨"Q1", some "t2", 10⟩ [] (by decide +kernel)
  exact ⟨hx, hown, hf, hn, hadvance, _, _, hsent, hlater, htoken⟩

end Cursor

end ResultFlow
