import ResultFlow.Proofs.Cursor.Forward
import ResultFlow.Proofs.Cursor.Requests

/-!
# Access to values

Values are read from the current row. With a row, the columns are known and no reading touches the
cursor. Without one every reading is refused: by the number of a column it leaves everything as it
is, and by a label it does what a look at the columns does, before it is refused.

1. `Tracked` says that a cursor with a current row has moved to it, so that a page was loaded and
   the columns are known; every action keeps it.
2. `cell_of_row_none` and `getByLabel_of_row_none` are readings without a row, `get_of_row` and
   `getByLabel_of_row` those with one.
3. Main statement: a reading that is refused leaves the result set alone, unless it is by a label,
   no page was loaded and the request for one reaches the service.
-/

namespace ResultFlow

variable {σ : Type} {α : Type}

namespace Cursor

variable {c : Cursor σ}

/-- Why nothing can be read where an open cursor has no row. -/
def noRow (c : Cursor σ) : Error := if c.rowNumber = 0 then .beforeFirstRow else .afterLastRow

/-- A placed cursor that has moved if it has a row. -/
structure Tracked (c : Cursor σ) : Prop where
  placed : c.Placed
  moved : c.row ≠ none → c.rowNumber ≠ 0

theorem tracked_start (calls : Calls σ) (settings : CursorSettings) (watching : Bool) :
    Tracked { calls, settings, watching } :=
  ⟨placed_start calls settings watching, fun hr => absurd rfl hr⟩

namespace Tracked

theorem perform (h : c.Tracked) (a : Action) : (c.perform a).Tracked := by
  refine ⟨h.placed.perform a, ?_⟩
  rcases perform_cases h.placed.isOpen a with ⟨-, he⟩ | ⟨p, -, -, ⟨-, he⟩ | ⟨-, he⟩⟩ |
    ⟨-, ⟨-, he⟩ | ⟨n, -, -, he⟩ | ⟨-, he⟩ | ⟨-, he⟩⟩ <;> rw [he]
  · exact h.moved
  · exact fun _ => Nat.succ_ne_zero _
  · exact h.moved
  · exact fun _ => Nat.succ_ne_zero _
  · exact h.moved
  · exact h.moved
  · exact h.moved

theorem performAll (h : c.Tracked) (actions : List Action) : (c.performAll actions).Tracked := by
  induction actions generalizing c with
  | nil => exact h
  | cons a actions ih => exact ih (h.perform a)

/-- With a row the columns are known. -/
theorem columns_of_row (h : c.Tracked) (hr : c.row ≠ none) : ∃ m, c.metadata = some m := by
  refine Option.ne_none_iff_exists'.mp fun hm => ?_
  exact h.moved hr (h.placed.unloaded (h.placed.columns hm))

/-- Without columns the next look at them needs a page. -/
theorem fetches_metadata (h : c.Tracked) (hm : c.metadata = none) : c.fetches .metadata = true := by
  have ha := h.placed.columns hm
  simp [fetches, needsPage, hm, ha, h.placed.unloaded ha]

end Tracked

/-- A look at the columns leaves the row and its number, and closes nothing. -/
theorem getMetadata_row (ho : c.closed = false) :
    c.getMetadata.2.closed = false ∧ c.getMetadata.2.row = c.row ∧
      c.getMetadata.2.rowNumber = c.rowNumber := by
  rcases getMetadata_cases ho with ⟨m, -, he⟩ | ⟨-, -, -, he⟩ | ⟨p, calls, -, -, he⟩ |
    ⟨e, calls, -, -, -, he⟩ <;> rw [he] <;> exact ⟨ho, rfl, rfl⟩

end Cursor

namespace ResultSet

open Cursor (getMetadata_of_some getMetadata_row fetch_of_maySend fetch_of_not_maySend perform_calls
  perform_of_fails tracked_start)

variable {s : ResultSet σ}

/-! ## Readings without a row -/

theorem checkRow_of_row_none {c : Cursor σ} (ho : c.closed = false) (hr : c.row = none) :
    checkRow c = .error c.noRow := by
  unfold checkRow Cursor.noRow
  rw [Cursor.position_eq_place ho, hr]
  by_cases hz : c.rowNumber = 0
  · rw [Cursor.place_of_unmoved hz, if_pos hz]
  · rw [if_neg hz]
    rcases c.place_cases with ⟨hn, -⟩ | ⟨-, he⟩ | ⟨-, -, he⟩ | ⟨-, -, he⟩ | ⟨-, -, -, he⟩
    · exact absurd hn hz
    all_goals rw [he]; rfl

/-- Without a row no cell is read, and nothing changes. -/
theorem cell_of_row_none (ho : s.cursor.closed = false) (hr : s.cursor.row = none) (index : Nat) :
    s.cell index = (.error s.cursor.noRow, s) := by
  unfold cell
  rw [if_neg (Bool.eq_false_iff.mp ho), checkRow_of_row_none ho hr]

theorem get_of_row_none (ho : s.cursor.closed = false) (hr : s.cursor.row = none)
    (read : Cell.Reader α) (index : Nat) : s.get read index = (.error s.cursor.noRow, s) := by
  unfold get
  rw [cell_of_row_none ho hr]

/-- Without a row a label is looked for in the columns, and then the reading is refused. -/
theorem getByLabel_of_row_none (ho : s.cursor.closed = false) (hr : s.cursor.row = none)
    (read : Cell.Reader α) (label : String) :
    ∃ e, s.getByLabel read label = (.error e, { s with cursor := s.cursor.perform .metadata }) := by
  obtain ⟨hclosed, hrow, -⟩ := getMetadata_row ho
  unfold getByLabel findColumn onCursor Cursor.perform
  rw [if_neg (Bool.eq_false_iff.mp ho)]
  dsimp only
  rcases hm : s.cursor.getMetadata with ⟨e | m, d⟩
  · exact ⟨e, rfl⟩
  rw [hm] at hclosed hrow
  dsimp only
  cases m.findColumn label with
  | none => exact ⟨_, rfl⟩
  | some index =>
    exact ⟨_, get_of_row_none (s := { s with cursor := d }) hclosed (hrow.trans hr) read index⟩

/-! ## Readings with a row -/

/-- On a row the position lets a cell be read. -/
theorem checkRow_of_row {c : Cursor σ} (h : c.Tracked) {r : Row} (hr : c.row = some r) :
    checkRow c = .ok () := by
  unfold checkRow
  rw [Cursor.position_eq_place h.placed.isOpen, hr]
  rcases c.place_cases with ⟨hn, -⟩ | ⟨-, he⟩ | ⟨-, -, he⟩ | ⟨-, -, he⟩ | ⟨-, -, -, he⟩
  · exact absurd hn (h.moved (by rw [hr]; exact Option.some_ne_none r))
  all_goals rw [he]; rfl

/-- A cell that the row and the columns have is read. -/
theorem cell_of_row (h : s.cursor.Tracked) {r : Row} (hr : s.cursor.row = some r) {m : Metadata}
    (hm : s.cursor.metadata = some m) {index : Nat} (hi : 1 ≤ index) (hc : index ≤ m.columnCount)
    (hs : index ≤ r.size) :
    s.cell index = (.ok (r.value (index - 1)), { s with null := (r.value (index - 1)).isNone }) := by
  have ho := h.placed.isOpen
  have hcolumn : checkColumn s.cursor index = (.ok (), s.cursor) := by
    unfold checkColumn
    rw [if_neg (by omega), getMetadata_of_some ho hm]
    dsimp only
    rw [if_neg (by omega)]
  have hcell : s.cursor.cell index = .ok (r.value (index - 1)) := by
    unfold Cursor.cell
    rw [if_neg (Bool.eq_false_iff.mp ho), hr]
    dsimp only
    rw [if_neg (by omega)]
  unfold cell
  rw [if_neg (Bool.eq_false_iff.mp ho), checkRow_of_row h hr]
  dsimp only
  rw [hcolumn]
  dsimp only
  rw [hcell]

/-- With a row a reading leaves the cursor alone. -/
theorem get_of_row (h : s.cursor.Tracked) (hr : s.cursor.row ≠ none) (read : Cell.Reader α)
    (index : Nat) : (s.get read index).2.cursor = s.cursor := by
  obtain ⟨m, hm⟩ := h.columns_of_row hr
  rw [get_cursor, getMetadata_of_some h.placed.isOpen hm, ite_self]

theorem getByLabel_of_row (h : s.cursor.Tracked) (hr : s.cursor.row ≠ none) (read : Cell.Reader α)
    (label : String) : (s.getByLabel read label).2.cursor = s.cursor := by
  obtain ⟨m, hm⟩ := h.columns_of_row hr
  rw [getByLabel_cursor, getMetadata_of_some h.placed.isOpen hm]

/-! ## Requests -/

/-- No request was sent, and nothing changed but what was reported about the calls. -/
def Undisturbed (s t : ResultSet σ) : Prop :=
  t.cursor.calls.sent = s.cursor.calls.sent ∧
    ∃ calls, t = { s with cursor := { s.cursor with calls } }

/-- A look at the columns disturbs the result set exactly if they are not known and the request for
the first page reaches the service. -/
theorem undisturbed_metadata_iff (h : s.cursor.Tracked) :
    Undisturbed s { s with cursor := s.cursor.perform .metadata } ↔
      ¬ (s.cursor.metadata = none ∧ s.cursor.MaySend) := by
  have ho := h.placed.isOpen
  constructor
  · rintro ⟨hsent, -⟩ ⟨hm, hs⟩
    have hcalls := (perform_calls ho (h.fetches_metadata hm)).1.trans (fetch_of_maySend hs)
    have hlen := congrArg List.length (hcalls.symm.trans hsent)
    simp at hlen
  · intro hn
    rcases Option.eq_none_or_eq_some s.cursor.metadata with hm | ⟨m, hm⟩
    · obtain ⟨hsent, he⟩ := fetch_of_not_maySend fun hs => hn ⟨hm, hs⟩
      rw [perform_of_fails ho ⟨h.fetches_metadata hm, he⟩]
      exact ⟨hsent, _, rfl⟩
    · rw [Cursor.perform, getMetadata_of_some ho hm]
      exact ⟨rfl, s.cursor.calls, rfl⟩

theorem Use.tracked_performAll (h : s.cursor.Tracked) {uses : List Use}
    (ho : (performAll s uses).cursor.closed = false) : (performAll s uses).cursor.Tracked := by
  obtain ⟨actions, he⟩ := performAll_cursor ho
  rw [he]
  exact h.performAll actions

/-- **Readings and requests.** Without a current row every reading is refused. By the number of a
column it changes nothing. By a label it does what a look at the columns does, so once a page was
loaded it changes nothing either; before, it disturbs the result set exactly if the request for the
first page reaches the service. With a current row no reading touches the cursor or its calls. -/
theorem refused_reading_asks_iff (calls : Calls σ) (settings : CursorSettings) (watching : Bool)
    (uses : List Use) :
    let s := Use.performAll { cursor := { calls, settings, watching } } uses
    s.cursor.closed = false →
      (s.cursor.row = none → ∀ {α : Type} (read : Cell.Reader α),
        (∀ index, s.get read index = (.error s.cursor.noRow, s)) ∧
        ∀ label,
          (∃ e, s.getByLabel read label =
            (.error e, { s with cursor := s.cursor.perform .metadata })) ∧
          (s.cursor.metadata ≠ none → (s.getByLabel read label).2 = s) ∧
          (Undisturbed s (s.getByLabel read label).2 ↔
            ¬ (s.cursor.metadata = none ∧ s.cursor.MaySend))) ∧
      (s.cursor.row ≠ none → ∀ {α : Type} (read : Cell.Reader α),
        (∀ index, (s.get read index).2.cursor = s.cursor) ∧
        ∀ label, (s.getByLabel read label).2.cursor = s.cursor) := by
  intro s ho
  have h : s.cursor.Tracked := Use.tracked_performAll (tracked_start calls settings watching) ho
  refine ⟨fun hr α read => ⟨get_of_row_none ho hr read, fun label => ?_⟩,
    fun hr α read => ⟨get_of_row h hr read, getByLabel_of_row h hr read⟩⟩
  obtain ⟨e, he⟩ := getByLabel_of_row_none ho hr read label
  refine ⟨⟨e, he⟩, fun hm => ?_, ?_⟩
  · obtain ⟨m, hm⟩ := Option.ne_none_iff_exists'.mp hm
    rw [he, Cursor.perform, getMetadata_of_some ho hm]
  · rw [he]
    exact undisturbed_metadata_iff h

/-- Over one page with one row: on the row a reading by label leaves the cursor alone, and after it
readings are refused and change nothing. -/
theorem refused_reading_after_last :
    let row (text : String) : Row := ⟨[some text]⟩
    let page : Page := { rows := [row "col1", row "a"], columns := [.ofName "col1" "varchar"] }
    let calls : Calls (List Service.Reply) :=
      { query := "Q1", service := .script, state := [⟨.page page, false⟩] }
    let s := Use.performAll { cursor := { calls } } [.operation .next]
    let t := Use.performAll { cursor := { calls } } [.operation .next, .operation .next]
    (s.cursor.row = some (row "a") ∧ (s.getByLabel Cell.text "col1").2.cursor = s.cursor) ∧
      t.cursor.row = none ∧ t.get Cell.text 1 = (.error .afterLastRow, t) ∧
      (t.getByLabel Cell.text "col1").2 = t := by
  intro row page calls s t
  have hs : s.cursor.closed = false ∧ s.cursor.row = some (row "a") := by decide +kernel
  have ht : t.cursor.closed = false ∧ t.cursor.row = none ∧ t.cursor.metadata ≠ none ∧
      t.cursor.noRow = .afterLastRow := by decide +kernel
  obtain ⟨hopen, hrow, hm, he⟩ := ht
  have hread := (refused_reading_asks_iff calls {} false [.operation .next] hs.1).2
    (by rw [hs.2]; exact Option.some_ne_none _) Cell.text
  obtain ⟨hget, hlabel⟩ := (refused_reading_asks_iff calls {} false
    [.operation .next, .operation .next] hopen).1 hrow Cell.text
  exact ⟨⟨hs.2, hread.2 "col1"⟩, hrow, by rw [hget, he], (hlabel "col1").2.1 hm⟩

/-- Before the first row a reading by label loads the first page, and then it is refused. -/
theorem label_asks_before_first :
    let row (text : String) : Row := ⟨[some text]⟩
    let page : Page := { rows := [row "col1", row "a"], columns := [.ofName "col1" "varchar"] }
    let calls : Calls (List Service.Reply) :=
      { query := "Q1", service := .script, state := [⟨.page page, false⟩] }
    let s : ResultSet (List Service.Reply) := { cursor := { calls } }
    let t := (s.getByLabel Cell.text "col1").2
    s.cursor.closed = false ∧ s.cursor.row = none ∧
      (s.getByLabel Cell.text "col1").1 = .error .beforeFirstRow ∧
      s.cursor.calls.sent = [] ∧ t.cursor.calls.sent = [⟨"Q1", none, 1000⟩] ∧
      s.cursor.ahead = none ∧ t.cursor.ahead = some [row "a"] := by
  intro row page calls s t
  exact ⟨rfl, rfl, rfl, rfl, rfl, rfl, rfl⟩

end ResultSet

end ResultFlow
