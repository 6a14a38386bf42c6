import ResultFlow.Proofs.Cursor.Requests

/-!
# Columns and pages of a cursor

The parts of an open cursor fit together although they are set at different times: it has columns
exactly if it has a page, it has a page if it moved or holds a token, and it moved if it has a row.
So its columns can always be had or the failure of a fetch is reported, and once they are had they
stay the same and cost no request.

1. `perform_exchanges_cases` tells the actions apart by what they load.
2. `Coherent` ties the parts of a cursor to the exchanges so far; every action keeps it
   (`Coherent.perform`), and so does every use (`Traffic.coherent_run`).
3. `getMetadata_ne_service`: a failure to have the columns is never one of the cursor itself.
-/

namespace ResultFlow

variable {σ : Type}

theorem lastPage_append (xs ys : List (Exchange σ)) :
    lastPage (xs ++ ys) = (lastPage ys).or (lastPage xs) := by
  unfold lastPage
  rw [List.filterMap_append, List.getLast?_append]

/-! ## Failures of a fetch -/

theorem checkFetchSize_ne_service {n : Int} {e : Error} (h : checkFetchSize n = .error e)
    (reason : String) : e ≠ .service reason := by
  unfold checkFetchSize at h
  split at h
  · cases h
    exact nofun
  · split at h
    · cases h
      exact nofun
    · cases h

/-- A fetch fails as a query, by its limit, by an interruption or for its fetch size. What the
service says is the cause of the failure and not the failure itself. -/
theorem Calls.fetch_ne_service {c : Calls σ} {token : Option String} {maxRows : Nat}
    {limit : Duration} {watching : Bool} {e : Error}
    (h : (c.fetch token maxRows limit watching).1 = .error e) (reason : String) :
    e ≠ .service reason := by
  rcases fetch_cases c token maxRows limit watching with ⟨e, hp, he⟩ | ⟨r, events, -, -, he⟩ |
    ⟨r, events, -, -, he⟩ <;> rw [he] at h
  · cases h
    unfold prepare at hp
    rcases hs : checkFetchSize maxRows with e' | n <;> rw [hs] at hp <;> cases hp
    exact checkFetchSize_ne_service hs reason
  all_goals
    unfold verdict at h
    split at h <;> cases h <;> exact nofun

namespace Cursor

variable {c : Cursor σ} {xs : List (Exchange σ)}

/-! ## What an action loads -/

/-- An action on an open cursor loads nothing and leaves the page, the columns and the moves alone;
or it loads a page, on which a move steps; or it steps on the page that is there. -/
theorem perform_exchanges_cases (ho : c.closed = false) (a : Action) :
    (lastPage (c.exchanges a) = none ∧
      ∃ calls settings, c.perform a = { c with calls, settings }) ∨
    (∃ p calls, lastPage (c.exchanges a) = some p ∧ (c.perform a = { c with calls }.load p ∨
      c.perform a = ({ c with calls }.load p).step)) ∨
    (lastPage (c.exchanges a) = none ∧ c.needsPage = false ∧ c.perform a = c.step) := by
  rcases perform_cases ho a with ⟨hfails, he⟩ | ⟨p, hf, hp, h⟩ | ⟨hf, h⟩
  · refine .inl ⟨?_, c.fetch.2, c.settings, he⟩
    obtain ⟨hf, e, hr⟩ := hfails
    by_cases hs : c.Sends a
    · rw [exchanges_of_sends hs, hr]
      rfl
    · rw [exchanges_of_not_sends hs]
      rfl
  · refine .inr (.inl ⟨p, c.fetch.2, ?_, ?_⟩)
    · -- a page comes only from a request that reached the service
      have hs : c.Sends a := by
        refine ⟨ho, hf, Classical.byContradiction fun hm => ?_⟩
        obtain ⟨-, e, hr⟩ := fetch_of_not_maySend hm
        rw [hp] at hr
        cases hr
      rw [exchanges_of_sends hs, hp]
      rfl
    · rcases h with ⟨-, he⟩ | ⟨-, he⟩
      · exact .inr he
      · exact .inl he
  · have hx : lastPage (c.exchanges a) = none := by
      rw [exchanges_of_not_fetches hf]
      rfl
    rcases h with ⟨rfl, he⟩ | ⟨n, -, -, he⟩ | ⟨-, he⟩ | ⟨-, he⟩
    · exact .inr (.inr ⟨hx, hf, he⟩)
    · exact .inl ⟨hx, c.calls, { c.settings with fetchSize := n }, he⟩
    · exact .inl ⟨hx, c.calls.interrupt, c.settings, he⟩
    · exact .inl ⟨hx, c.calls, c.settings, he⟩

/-! ## What every action keeps -/

/-- The parts of an open cursor after exchanges fit together. -/
structure Coherent (c : Cursor σ) (xs : List (Exchange σ)) : Prop where
  isOpen : c.closed = false
  loaded : c.ahead.isSome = (lastPage xs).isSome
  columns : c.metadata.isSome = c.ahead.isSome
  moved : 0 < c.rowNumber → c.ahead.isSome = true
  onRow : c.row.isSome = true → 0 < c.rowNumber
  named : c.token.isSome = true → c.ahead.isSome = true

theorem coherent_start (calls : Calls σ) (settings : CursorSettings) (watching : Bool) :
    Coherent { calls, settings, watching } [] where
  isOpen := rfl
  loaded := rfl
  columns := rfl
  moved h := absurd h (Nat.lt_irrefl 0)
  onRow := nofun
  named := nofun

namespace Coherent

/-- A cursor that has no page needs one. -/
theorem ahead_of_ready (h : c.Coherent xs) (hn : c.needsPage = false) : c.ahead.isSome = true := by
  unfold needsPage at hn
  split at hn
  · exact h.moved (Nat.pos_of_ne_zero (of_decide_eq_false hn))
  · rename_i rows hr
    rw [hr]
    rfl

theorem step (h : c.Coherent xs) (ha : c.ahead.isSome = true) : c.step.Coherent xs := by
  have hs : c.step.ahead.isSome = c.ahead.isSome := Option.isSome_map ..
  exact ⟨h.isOpen, hs.trans h.loaded, h.columns.trans hs.symm, fun _ => hs.trans ha,
    fun _ => Nat.succ_pos _, fun _ => hs.trans ha⟩

theorem load (h : c.Coherent xs) (calls : Calls σ) {p : Page} {ys : List (Exchange σ)}
    (hy : lastPage ys = some p) : ({ c with calls }.load p).Coherent (xs ++ ys) where
  isOpen := h.isOpen
  loaded := by
    rw [lastPage_append, hy]
    rfl
  columns := by
    rw [load_metadata, load_ahead, Option.isSome_or]
    exact Bool.or_true _
  moved _ := rfl
  onRow := h.onRow
  named _ := rfl

/-- Exchanges that bring no page, and what is not held in pages, do not matter. -/
theorem unloaded (h : c.Coherent xs) (calls : Calls σ) (settings : CursorSettings)
    {ys : List (Exchange σ)} (hy : lastPage ys = none) :
    ({ c with calls, settings } : Cursor σ).Coherent (xs ++ ys) :=
  { h with loaded := by rw [lastPage_append, hy]; exact h.loaded }

theorem perform (h : c.Coherent xs) (a : Action) :
    (c.perform a).Coherent (xs ++ c.exchanges a) := by
  rcases perform_exchanges_cases h.isOpen a with ⟨hx, calls, settings, he⟩ |
    ⟨p, calls, hx, he | he⟩ | ⟨hx, hn, he⟩ <;> rw [he]
  · exact h.unloaded calls settings hx
  · exact h.load calls hx
  · exact (h.load calls hx).step rfl
  · exact (h.step (h.ahead_of_ready hn)).unloaded c.calls c.settings hx

theorem performAll (h : c.Coherent xs) (actions : List Action) :
    (c.performAll actions).Coherent (xs ++ c.exchangesAll actions) := by
  induction actions generalizing c xs with
  | nil =>
    rw [exchangesAll, List.append_nil]
    exact h
  | cons a actions ih =>
    rw [exchangesAll, ← List.append_assoc]
    exact ih (h.perform a)

end Coherent

/-- A move that succeeds counts. -/
theorem rowNumber_pos_of_advance (ho : c.closed = false) {b : Bool} (hb : c.advance.1 = .ok b) :
    0 < (c.perform .advance).rowNumber := by
  rw [Cursor.perform]
  rcases advance_cases ho with ⟨-, -, he⟩ | ⟨p, calls, -, he⟩ | ⟨e, calls, -, -, he⟩ <;>
    rw [he] at hb ⊢
  · exact Nat.succ_pos _
  · exact Nat.succ_pos _
  · cases hb

/-! ## Columns -/

/-- Columns that are known stay the same. -/
theorem metadata_perform (ho : c.closed = false) {m : Metadata} (hm : c.metadata = some m)
    (a : Action) : (c.perform a).metadata = some m := by
  have hload : ∀ (calls : Calls σ) (p : Page), ({ c with calls }.load p).metadata = some m := by
    intro calls p
    rw [load_metadata, hm]
    rfl
  rcases perform_exchanges_cases ho a with ⟨-, calls, settings, he⟩ | ⟨p, calls, -, he | he⟩ |
    ⟨-, -, he⟩ <;> rw [he]
  · exact hm
  · exact hload calls p
  · exact hload calls p
  · exact hm

theorem metadata_performAll (ho : c.closed = false) {m : Metadata} (hm : c.metadata = some m)
    (actions : List Action) : (c.performAll actions).metadata = some m := by
  induction actions generalizing c with
  | nil => exact hm
  | cons a actions ih => exact ih (perform_closed ho a) (metadata_perform ho hm a)

/-- A cursor that was asked for its columns and has them knows them. -/
theorem metadata_of_getMetadata {m : Metadata} (hm : c.getMetadata.1 = .ok m) :
    (c.perform .metadata).closed = false ∧ (c.perform .metadata).metadata = some m := by
  have ho : c.closed = false := by
    rw [Bool.eq_false_iff]
    intro hc
    rw [getMetadata_of_closed hc] at hm
    cases hm
  rw [Cursor.perform]
  rcases getMetadata_cases ho with ⟨m', hc, he⟩ | ⟨-, -, -, he⟩ | ⟨p, calls, hc, -, he⟩ |
    ⟨e, calls, -, -, -, he⟩ <;> rw [he] at hm ⊢ <;> cases hm
  · exact ⟨ho, hc⟩
  · exact ⟨ho, load_metadata_of_none (c := { c with calls }) hc⟩

/-- Columns that are known cost no request. -/
theorem exchanges_of_metadata {m : Metadata} (hm : c.metadata = some m) :
    c.exchanges .metadata = [] := by
  apply exchanges_of_not_fetches
  rw [fetches, hm]
  rfl

/-- After a page was loaded the columns are known. -/
theorem Coherent.metadata_of_loaded (h : c.Coherent xs) (hl : (lastPage xs).isSome = true) :
    ∃ m, c.metadata = some m :=
  Option.isSome_iff_exists.mp (h.columns.trans (h.loaded.trans hl))

/-- Either the columns are had, or the fetch for them failed. -/
theorem Coherent.getMetadata_ne_service (h : c.Coherent xs) (reason : String) :
    c.getMetadata.1 ≠ .error (.service reason) := by
  rcases Option.eq_none_or_eq_some c.metadata with hm | ⟨m, hm⟩
  · have hn : c.needsPage = true := by
      refine Decidable.byContradiction fun hn => ?_
      have ha := h.ahead_of_ready (Bool.eq_false_iff.mpr hn)
      rw [← h.columns, hm] at ha
      cases ha
    rcases hr : c.fetch.1 with e | p
    · rw [getMetadata_of_error h.isOpen hm (ensurePage_of_error hn hr)]
      exact fun he => Calls.fetch_ne_service hr reason (Except.error.inj he)
    · rw [getMetadata_of_page h.isOpen hm hn hr]
      exact nofun
  · rw [getMetadata_of_some h.isOpen hm]
    exact nofun

end Cursor

/-! ## Runs of uses -/

namespace Traffic

open ResultSet (Use)

variable {t : Traffic σ}

theorem open_of_step {u : Use} (ho : (t.step u).set.cursor.closed = false) :
    t.set.cursor.closed = false ∧ u.closes = false := by
  constructor
  · rw [Bool.eq_false_iff]
    intro hc
    exact Bool.false_ne_true (ho.symm.trans (Use.closed_perform hc u))
  · rw [Bool.eq_false_iff]
    intro hu
    rw [(step_of_closes hu).1, t.set.cursor.close_eq.1] at ho
    cases ho

/-- A result that is still open is coherent. -/
theorem coherent_run (calls : Calls σ) (settings : CursorSettings) (watching : Bool)
    (uses : List Use) :
    let t := (start calls settings watching).run uses
    t.set.cursor.closed = false → t.set.cursor.Coherent t.exchanges := by
  refine run_induction (P := fun t => t.set.cursor.closed = false →
    t.set.cursor.Coherent t.exchanges) ?_ (fun _ => Cursor.coherent_start calls settings watching)
    uses
  intro t u ih ho
  obtain ⟨ho, hu⟩ := open_of_step ho
  have hc : (t.step u).set.cursor = t.set.cursor.performAll (u.actions t.set) :=
    Use.perform_cursor hu t.set
  rw [hc]
  exact (ih ho).performAll _

theorem run_set (t : Traffic σ) (uses : List Use) : (t.run uses).set = Use.performAll t.set uses := by
  induction uses generalizing t with
  | nil => rfl
  | cons u uses ih => exact ih (t.step u)

theorem step_exchanges (t : Traffic σ) (a : Cursor.Action) :
    (t.step (.action a)).exchanges = t.exchanges ++ t.set.cursor.exchanges a := by
  show t.exchanges ++ (t.set.cursor.exchanges a ++ []) = _
  rw [List.append_nil]

theorem step_metadata_exchanges {m : Metadata} (hm : t.set.cursor.metadata = some m) :
    (t.step (.action .metadata)).exchanges = t.exchanges := by
  rw [step_exchanges, Cursor.exchanges_of_metadata hm, List.append_nil]

/-- Columns that are known stay the same while the result is open. -/
theorem metadata_run {m : Metadata} (ho : t.set.cursor.closed = false)
    (hm : t.set.cursor.metadata = some m) {later : List Use}
    (hl : (t.run later).set.cursor.closed = false) :
    (t.run later).set.cursor.metadata = some m := by
  rw [run_set] at hl ⊢
  obtain ⟨actions, he⟩ := Use.performAll_cursor hl
  rw [he]
  exact Cursor.metadata_performAll ho hm actions

/-- **Columns, pages and moves fit together.** In every run, a failure to have the columns is never
one of the cursor or the service itself. While the result is open: there are columns exactly if there
is a page, a page if the cursor moved or holds a token, and a move if there is a row. A move that
succeeds leaves a page, so one was loaded. Once a page was loaded the columns are had without a
request, and nothing changes. Columns that were had are had again, without a request, whatever is
done and loaded in between. -/
theorem coherent_while_open (calls : Calls σ) (settings : CursorSettings) (watching : Bool)
    (uses : List Use) :
    let t := (start calls settings watching).run uses
    let c := t.set.cursor
    (∀ reason, c.getMetadata.1 ≠ .error (.service reason)) ∧
    (c.closed = false →
      (c.metadata.isSome = c.ahead.isSome ∧ (0 < c.rowNumber → c.ahead.isSome = true) ∧
        (c.row.isSome = true → 0 < c.rowNumber) ∧
        (c.token.isSome = true → c.ahead.isSome = true)) ∧
      (∀ b, c.advance.1 = .ok b → c.advance.2.ahead.isSome = true ∧
        (lastPage (t.step (.action .advance)).exchanges).isSome = true) ∧
      ((lastPage t.exchanges).isSome = true → (∃ m, c.getMetadata = (.ok m, c)) ∧
        (t.step (.action .metadata)).exchanges = t.exchanges) ∧
      ∀ m, c.getMetadata.1 = .ok m → ∀ later,
        let u := (t.step (.action .metadata)).run later
        u.set.cursor.closed = false → u.set.cursor.getMetadata = (.ok m, u.set.cursor) ∧
          (u.step (.action .metadata)).exchanges = u.exchanges) := by
  intro t c
  have hrun := coherent_run calls settings watching uses
  constructor
  · intro reason
    cases hc : c.closed with
    | true =>
      rw [Cursor.getMetadata_of_closed hc]
      exact nofun
    | false => exact (hrun hc).getMetadata_ne_service reason
  intro ho
  have h : c.Coherent t.exchanges := hrun ho
  refine ⟨⟨h.columns, h.moved, h.onRow, h.named⟩, ?_, ?_, ?_⟩
  · intro b hb
    have hmoved := h.perform .advance
    have ha := hmoved.moved (Cursor.rowNumber_pos_of_advance ho hb)
    refine ⟨ha, ?_⟩
    rw [step_exchanges]
    exact hmoved.loaded.symm.trans ha
  · intro hl
    obtain ⟨m, hm⟩ := h.metadata_of_loaded hl
    exact ⟨⟨m, Cursor.getMetadata_of_some ho hm⟩, step_metadata_exchanges hm⟩
  · intro m hm later u hu
    obtain ⟨hopen, hm⟩ := Cursor.metadata_of_getMetadata hm
    have hm := metadata_run (t := t.step (.action .metadata)) hopen hm hu
    exact ⟨Cursor.getMetadata_of_some hu hm, step_metadata_exchanges hm⟩

/-- The columns are asked for twice before they come, and stay those of the first page after the
second one, which names other columns, was loaded. -/
theorem coherent_over_two_pages :
    let row (text : String) : Row := ⟨[some text]⟩
    let replies : List Service.Reply := [⟨.failure (.service "Result metadata unavailable"), false⟩,
      ⟨.page { next := some "t2", rows := [row "col1"], columns := [.ofName "col1" "varchar"] },
        false⟩,
      ⟨.page { rows := [row "a"], columns := [.ofName "col2" "bigint"] }, false⟩]
    let calls : Calls (List Service.Reply) :=
      { query := "Q1", service := .script, state := replies }
    let t := (start calls {} false).run [.action .metadata]
    let later : List Use := [.action .metadata, .operation .next, .operation .next]
    let u := (t.step (.action .metadata)).run later
    (∀ reason, t.set.cursor.getMetadata.1 ≠ .error (.service reason)) ∧
      t.set.cursor.closed = false ∧ u.set.cursor.closed = false ∧
      u.exchanges.length = 3 ∧ u.set.cursor.getMetadata.1 = .ok ⟨[.ofName "col1" "varchar"]⟩ := by
  intro row replies calls
  have h := coherent_while_open calls {} false [.action .metadata]
  dsimp only at h ⊢
  obtain ⟨hfails, hopen⟩ := h
  have ht : ((start calls {} false).run [.action .metadata]).set.cursor.closed = false := by
    decide +kernel
  have hu : ((((start calls {} false).run [.action .metadata]).step (.action .metadata)).run
      [.action .metadata, .operation .next, .operation .next]).set.cursor.closed = false := by
    decide +kernel
  have hm : ((start calls {} false).run [.action .metadata]).set.cursor.getMetadata.1 =
      .ok ⟨[.ofName "col1" "varchar"]⟩ := rfl
  obtain ⟨-, -, -, hstays⟩ := hopen ht
  exact ⟨hfails, ht, hu, by decide +kernel, congrArg Prod.fst (hstays _ hm _ hu).1⟩

end Traffic

end ResultFlow
