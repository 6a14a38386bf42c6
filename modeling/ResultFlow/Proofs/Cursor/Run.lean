import ResultFlow.Cursor

/-!
# Runs of a cursor

What a caller may do with an open cursor, and what comes of it: the state after a run, the pages
that were loaded during it, each with the operation that asked for it, and the rows that its moves
made current. `ensurePage_cases`, `advance_cases` and `getMetadata_cases` say everything that a
load, a move and a look at the columns can do.
-/

namespace ResultFlow

/-! ## Fetch sizes -/

theorem checkFetchSize_of_le {n : Nat} (h : 1 ≤ n ∧ n ≤ maxFetchSize) :
    checkFetchSize n = .ok n := by
  unfold checkFetchSize
  rw [if_neg (by omega), if_neg (by omega)]
  rfl

theorem checkFetchSize_cases (n : Nat) :
    (∃ e, checkFetchSize n = .error e) ∨
      (checkFetchSize n = .ok n ∧ 1 ≤ n ∧ n ≤ maxFetchSize) := by
  by_cases h : 1 ≤ n ∧ n ≤ maxFetchSize
  · exact .inr ⟨checkFetchSize_of_le h, h⟩
  · left
    unfold checkFetchSize
    by_cases hm : (n : Int) > maxFetchSize
    · exact ⟨_, if_pos hm⟩
    · exact ⟨_, (if_neg hm).trans (if_pos (by omega))⟩

namespace Cursor

variable {σ : Type} {c : Cursor σ}

/-! ## Loading, stepping, and the fields they touch -/

@[simp] theorem load_closed (c : Cursor σ) (p : Page) : (c.load p).closed = c.closed := rfl

@[simp] theorem load_ahead (c : Cursor σ) (p : Page) :
    (c.load p).ahead = some (c.rowsOf p) := rfl

@[simp] theorem load_token (c : Cursor σ) (p : Page) : (c.load p).token = p.next := rfl

@[simp] theorem load_row (c : Cursor σ) (p : Page) : (c.load p).row = c.row := rfl

@[simp] theorem load_rowNumber (c : Cursor σ) (p : Page) :
    (c.load p).rowNumber = c.rowNumber := rfl

@[simp] theorem load_metadata (c : Cursor σ) (p : Page) :
    (c.load p).metadata = c.metadata.or (some ⟨p.columns⟩) := by
  show (c.metadata <|> some ⟨p.columns⟩) = _
  cases c.metadata <;> rfl

theorem load_metadata_of_none (hm : c.metadata = none) {p : Page} :
    (c.load p).metadata = some ⟨p.columns⟩ := by
  rw [load_metadata, hm, Option.none_or]

@[simp] theorem rowsOf_calls (c : Cursor σ) (calls : Calls σ) (p : Page) :
    ({ c with calls } : Cursor σ).rowsOf p = c.rowsOf p := rfl

@[simp] theorem step_closed (c : Cursor σ) : c.step.closed = c.closed := rfl

@[simp] theorem step_calls (c : Cursor σ) : c.step.calls = c.calls := rfl

@[simp] theorem step_token (c : Cursor σ) : c.step.token = c.token := rfl

@[simp] theorem step_metadata (c : Cursor σ) : c.step.metadata = c.metadata := rfl

@[simp] theorem step_rowNumber (c : Cursor σ) : c.step.rowNumber = c.rowNumber + 1 := rfl

@[simp] theorem step_row (c : Cursor σ) : c.step.row = c.ahead.bind List.head? := rfl

@[simp] theorem step_ahead (c : Cursor σ) : c.step.ahead = c.ahead.map List.tail := rfl

/-- The rows of the loaded page that are still ahead. -/
def queued (c : Cursor σ) : List Row := c.ahead.getD []

theorem queued_of_ahead {rows : List Row} (h : c.ahead = some rows) : c.queued = rows := by
  rw [queued, h, Option.getD_some]

/-- A step takes the first of the rows ahead. -/
theorem row_append_queued (c : Cursor σ) : c.step.row.toList ++ c.step.queued = c.queued := by
  unfold queued
  rw [step_row, step_ahead]
  cases c.ahead with
  | none => rfl
  | some rows => cases rows <;> rfl

/-! ## Pages that arrive -/

/-- The page that is loaded if the next move needs one; none if it cannot be had. -/
def arrival (c : Cursor σ) : Option Page :=
  if c.needsPage then
    (c.calls.fetch c.token c.settings.fetchSize c.settings.pageTimeout c.watching).1.toOption
  else none

theorem needsPage_of_arrival {p : Page} (h : c.arrival = some p) : c.needsPage = true := by
  unfold arrival at h
  by_cases hn : c.needsPage = true
  · exact hn
  · rw [if_neg hn] at h
    cases h

/-- A page is needed before the first one, and at the end of a page that names another. -/
theorem needsPage_cases (h : c.needsPage = true) :
    (c.ahead = none ∧ c.rowNumber = 0) ∨ (c.ahead = some [] ∧ c.token.isSome = true) := by
  unfold needsPage at h
  split at h
  · exact .inl ⟨‹_›, by simpa using h⟩
  · rename_i rows hr
    simp only [Bool.and_eq_true, List.isEmpty_iff] at h
    exact .inr ⟨by rw [hr, h.2], h.1⟩

/-! ## What follows a load -/

theorem ensurePage_of_ready (hn : c.needsPage = false) : c.ensurePage = (.ok (), c) := by
  unfold ensurePage
  rw [hn, if_neg Bool.false_ne_true]

theorem advance_of_ensurePage (ho : c.closed = false) {d : Cursor σ}
    (h : c.ensurePage = (.ok (), d)) : c.advance = (.ok d.step.row.isSome, d.step) := by
  unfold advance
  rw [if_neg (Bool.eq_false_iff.mp ho), h]

theorem advance_of_error (ho : c.closed = false) {e : Error} {d : Cursor σ}
    (h : c.ensurePage = (.error e, d)) : c.advance = (.error e, d) := by
  unfold advance
  rw [if_neg (Bool.eq_false_iff.mp ho), h]

theorem getMetadata_of_some (ho : c.closed = false) {m : Metadata} (hm : c.metadata = some m) :
    c.getMetadata = (.ok m, c) := by
  unfold getMetadata
  simp only [if_neg (Bool.eq_false_iff.mp ho), hm]

theorem getMetadata_of_ensurePage (ho : c.closed = false) (hm : c.metadata = none) {d : Cursor σ}
    (h : c.ensurePage = (.ok (), d)) {m : Metadata} (hd : d.metadata = some m) :
    c.getMetadata = (.ok m, d) := by
  unfold getMetadata
  simp only [if_neg (Bool.eq_false_iff.mp ho), hm, h, hd]

theorem getMetadata_of_error (ho : c.closed = false) (hm : c.metadata = none) {e : Error}
    {d : Cursor σ} (h : c.ensurePage = (.error e, d)) : c.getMetadata = (.error e, d) := by
  unfold getMetadata
  simp only [if_neg (Bool.eq_false_iff.mp ho), hm, h]

theorem getMetadata_of_ready (ho : c.closed = false) (hm : c.metadata = none)
    (hn : c.needsPage = false) : c.getMetadata = (.error .metadataUnavailable, c) := by
  unfold getMetadata
  simp only [if_neg (Bool.eq_false_iff.mp ho), hm, ensurePage_of_ready hn]

/-! ## What a load, a move and a look at the columns can do -/

/-- Either no page is needed, or one is loaded, or the fetch fails and only the calls change. -/
theorem ensurePage_cases (c : Cursor σ) :
    (c.needsPage = false ∧ c.arrival = none ∧ c.ensurePage = (.ok (), c)) ∨
    (∃ p calls, c.arrival = some p ∧ c.ensurePage = (.ok (), { c with calls }.load p)) ∨
    (∃ e calls, c.needsPage = true ∧ c.arrival = none ∧
      c.ensurePage = (.error e, { c with calls })) := by
  unfold arrival ensurePage
  cases hn : c.needsPage with
  | false => exact .inl ⟨rfl, rfl, rfl⟩
  | true =>
    simp only [if_true]
    rcases c.calls.fetch c.token c.settings.fetchSize c.settings.pageTimeout c.watching with
      ⟨e | p, calls⟩
    · exact .inr (.inr ⟨e, calls, trivial, rfl, rfl⟩)
    · exact .inr (.inl ⟨p, calls, rfl, rfl⟩)

/-- A move of an open cursor steps on the loaded page, or on a page that it loads first, or fails
and changes only the calls. -/
theorem advance_cases (h : c.closed = false) :
    (c.needsPage = false ∧ c.arrival = none ∧
      c.advance = (.ok c.step.row.isSome, c.step)) ∨
    (∃ p calls, c.arrival = some p ∧
      c.advance = (.ok ({ c with calls }.load p).step.row.isSome,
        ({ c with calls }.load p).step)) ∨
    (∃ e calls, c.needsPage = true ∧ c.arrival = none ∧
      c.advance = (.error e, { c with calls })) := by
  rcases ensurePage_cases c with ⟨hn, ha, he⟩ | ⟨p, calls, ha, he⟩ | ⟨e, calls, hn, ha, he⟩
  · exact .inl ⟨hn, ha, advance_of_ensurePage h he⟩
  · exact .inr (.inl ⟨p, calls, ha, advance_of_ensurePage h he⟩)
  · exact .inr (.inr ⟨e, calls, hn, ha, advance_of_error h he⟩)

/-- The columns of an open cursor are known, or come with a page that is loaded for them, or cannot
be had; then only the calls change. -/
theorem getMetadata_cases (h : c.closed = false) :
    (∃ m, c.metadata = some m ∧ c.getMetadata = (.ok m, c)) ∨
    (c.metadata = none ∧ c.arrival = none ∧ c.needsPage = false ∧
      c.getMetadata = (.error .metadataUnavailable, c)) ∨
    (∃ p calls, c.metadata = none ∧ c.arrival = some p ∧
      c.getMetadata = (.ok ⟨p.columns⟩, { c with calls }.load p)) ∨
    (∃ e calls, c.metadata = none ∧ c.needsPage = true ∧ c.arrival = none ∧
      c.getMetadata = (.error e, { c with calls })) := by
  rcases Option.eq_none_or_eq_some c.metadata with hm | ⟨m, hm⟩
  · right
    rcases ensurePage_cases c with ⟨hn, ha, he⟩ | ⟨p, calls, ha, he⟩ | ⟨e, calls, hn, ha, he⟩
    · exact .inl ⟨hm, ha, hn, getMetadata_of_ready h hm hn⟩
    · have hd : ({ c with calls }.load p).metadata = some ⟨p.columns⟩ := load_metadata_of_none hm
      exact .inr (.inl ⟨p, calls, hm, ha, getMetadata_of_ensurePage h hm he hd⟩)
    · exact .inr (.inr ⟨e, calls, hm, hn, ha, getMetadata_of_error h hm he⟩)
  · exact .inl ⟨m, hm, getMetadata_of_some h hm⟩

/-- A fetch size is taken over or refused; nothing else changes. -/
theorem setFetchSize_cases (h : c.closed = false) (size : Nat) :
    (∃ e, c.setFetchSize size = (.error e, c)) ∨
    ((1 ≤ size ∧ size ≤ maxFetchSize) ∧ c.setFetchSize size =
      (.ok (), { c with settings := { c.settings with fetchSize := size } })) := by
  unfold setFetchSize
  rw [if_neg (Bool.eq_false_iff.mp h)]
  rcases checkFetchSize_cases size with ⟨e, he⟩ | ⟨he, hs⟩ <;> rw [he]
  · exact .inl ⟨e, rfl⟩
  · exact .inr ⟨hs, rfl⟩

/-! ## Runs -/

/-- What a caller does with an open cursor; at any time the caller may be interrupted for good. -/
inductive Action
  | advance
  | metadata
  | cell (index : Nat)
  | setFetchSize (size : Nat)
  | position
  | rowNumber
  | interrupt
  deriving DecidableEq

/-- The cursor after an action. Cells, position and row number are only looked at. -/
def perform (c : Cursor σ) : Action → Cursor σ
  | .advance => c.advance.2
  | .metadata => c.getMetadata.2
  | .setFetchSize size => (c.setFetchSize size).2
  | .interrupt => c.interrupt
  | .cell _ | .position | .rowNumber => c

/-- The cursor after actions in turn. -/
def performAll (c : Cursor σ) (actions : List Action) : Cursor σ := actions.foldl perform c

/-- A page that was loaded. -/
structure Load where
  page : Page
  /-- Whether it was loaded for the columns and not for the next row. -/
  forColumns : Bool
  deriving DecidableEq

/-- The page that an action loads, if it does. -/
def loads (c : Cursor σ) : Action → List Load
  | .advance => (c.arrival.map (⟨·, false⟩)).toList
  | .metadata => if c.metadata.isNone then (c.arrival.map (⟨·, true⟩)).toList else []
  | .cell _ | .setFetchSize _ | .position | .rowNumber | .interrupt => []

/-- The row that an action makes current, if it does. -/
def visits (c : Cursor σ) : Action → List Row
  | .advance => match c.advance with
    | (.ok true, d) => d.row.toList
    | (.ok false, _) | (.error _, _) => []
  | .metadata | .cell _ | .setFetchSize _ | .position | .rowNumber | .interrupt => []

theorem visits_of_ok {d : Cursor σ} (h : c.advance = (.ok d.row.isSome, d)) :
    c.visits .advance = d.row.toList := by
  unfold visits
  rw [h]
  cases hs : d.row.isSome with
  | true => rfl
  | false =>
    have hr : d.row = none := by simpa using hs
    rw [hr]
    rfl

theorem visits_of_error {d : Cursor σ} {e : Error} (h : c.advance = (.error e, d)) :
    c.visits .advance = [] := by
  unfold visits
  rw [h]

end Cursor

/-- A cursor with what happened to it. -/
structure History (σ : Type) where
  cursor : Cursor σ
  /-- The pages that were loaded, in order. -/
  loads : List Cursor.Load := []
  /-- The rows that moves made current, in order. -/
  visited : List Row := []

namespace History

variable {σ : Type}

/-- A cursor that was not used yet. -/
def start (calls : Calls σ) (settings : CursorSettings) (watching : Bool) : History σ :=
  { cursor := { calls, settings, watching } }

def step (h : History σ) (a : Cursor.Action) : History σ where
  cursor := h.cursor.perform a
  loads := h.loads ++ h.cursor.loads a
  visited := h.visited ++ h.cursor.visits a

def run (h : History σ) (actions : List Cursor.Action) : History σ := actions.foldl step h

def pages (h : History σ) : List Page := h.loads.map (·.page)

theorem run_cursor (h : History σ) (actions : List Cursor.Action) :
    (h.run actions).cursor = h.cursor.performAll actions := by
  induction actions generalizing h with
  | nil => rfl
  | cons a actions ih => exact ih (h.step a)

/-- What every action keeps holds after every run. -/
theorem run_induction {P : History σ → Prop} (step : ∀ h a, P h → P (h.step a)) {h : History σ}
    (start : P h) (actions : List Cursor.Action) : P (h.run actions) := by
  induction actions generalizing h with
  | nil => exact start
  | cons a actions ih => exact ih (step h a start)

end History

end ResultFlow
