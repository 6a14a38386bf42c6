import ResultFlow.Proofs.Cursor.Uses

/-!
# Closing is final

Once a result set is closed every operation is refused before it looks at anything else. Only
whether it is closed, its query and the fetch size of its cursor can still be asked for, and closing
again does nothing.

1. `Cursor.Operation.perform_of_closed` and `Operation.perform_of_closed` go through the operations
   of a closed cursor and of a closed result set, one by one.
2. So whatever happens to a closed result set leaves it as it is, but that its caller may be told to
   stop waiting (`left_of_closed`).
3. Main statement: the answers of a result set at any time after it was closed.
-/

namespace ResultFlow

variable {σ α : Type}

/-! ## Closed cursors -/

namespace Cursor

variable {c : Cursor σ}

/-- What a caller can do with a cursor, by the type of the answer. -/
inductive Operation : Type → Type 1
  | advance : Operation Bool
  | metadata : Operation Metadata
  | cell (index : Nat) : Operation Cell
  | rowNumber : Operation Nat
  | position : Operation Position
  | fetchSize : Operation Nat
  | setFetchSize (size : Nat) : Operation Unit
  | query : Operation String
  | isClosed : Operation Bool
  | close : Operation Unit

namespace Operation

/-- The answer, and the cursor afterwards. -/
def perform : Operation α → Cursor σ → Except Error α × Cursor σ
  | advance, c => c.advance
  | metadata, c => c.getMetadata
  | cell index, c => (c.cell index, c)
  | rowNumber, c => (c.getRowNumber, c)
  | position, c => (c.position, c)
  | fetchSize, c => (.ok c.settings.fetchSize, c)
  | setFetchSize size, c => c.setFetchSize size
  | query, c => (.ok c.query, c)
  | isClosed, c => (.ok c.closed, c)
  | close, c => (.ok (), c.close)

/-- Whether an operation has an answer on a closed cursor. -/
def outlivesClosing : Operation α → Bool
  | fetchSize | query | isClosed | close => true
  | advance | metadata | cell _ | rowNumber | position | setFetchSize _ => false

/-- A closed cursor refuses every operation that does not outlive closing, and is left alone. -/
theorem perform_of_closed (h : c.closed = true) {op : Operation α}
    (hop : op.outlivesClosing = false) : op.perform c = (.error .cursorClosed, c) := by
  cases op with
  | advance => exact advance_of_closed h
  | metadata => exact getMetadata_of_closed h
  | setFetchSize size => exact setFetchSize_of_closed h size
  | cell index => exact congrArg (·, c) (if_pos h)
  | rowNumber => exact congrArg (·, c) (if_pos h)
  | position => exact congrArg (·, c) (if_pos h)
  | fetchSize | query | isClosed | close => cases hop

end Operation

theorem close_of_closed (h : c.closed = true) : c.close = c := if_pos h

theorem close_fields (c : Cursor σ) :
    c.close.calls.sent = c.calls.sent ∧ c.close.query = c.query := by
  unfold close
  split
  · exact ⟨rfl, rfl⟩
  · exact ⟨rfl, rfl⟩

/-- No operation changes a closed cursor. -/
theorem Operation.left_of_closed (h : c.closed = true) (op : Operation α) :
    (op.perform c).2 = c := by
  cases hop : op.outlivesClosing with
  | false => rw [perform_of_closed h hop]
  | true =>
    cases op with
    | close => exact close_of_closed h
    | fetchSize | query | isClosed => rfl
    | advance | metadata | cell _ | rowNumber | position | setFetchSize _ => cases hop

end Cursor

/-! ## Closed result sets -/

namespace ResultSet

variable {s : ResultSet σ}

theorem onCursor_of_closed (h : s.cursor.closed = true)
    (op : Cursor σ → Except Error α × Cursor σ) :
    s.onCursor op = (.error .resultSetClosed, s) := if_pos h

theorem ifOpen_of_closed (h : s.cursor.closed = true) (v : Except Error α) :
    s.ifOpen v = .error .resultSetClosed := if_pos h

theorem position_of_closed (h : s.cursor.closed = true) :
    s.position = .error .resultSetClosed := ifOpen_of_closed h _

theorem row_of_closed (h : s.cursor.closed = true) : s.row = .error .resultSetClosed := by
  unfold row
  rw [position_of_closed h]

theorem get_of_closed (h : s.cursor.closed = true) (read : Cell.Reader α) (index : Nat) :
    s.get read index = (.error .resultSetClosed, s) := by
  have hcell : s.cell index = (.error .resultSetClosed, s) := if_pos h
  unfold get
  rw [hcell]

/-- The label is not looked for. -/
theorem getByLabel_of_closed (h : s.cursor.closed = true) (read : Cell.Reader α) (label : String) :
    s.getByLabel read label = (.error .resultSetClosed, s) := by
  unfold getByLabel findColumn
  rw [onCursor_of_closed h]

namespace Operation

/-- Whether an operation has an answer on a closed result set. -/
def outlivesClosing : Operation α → Bool
  | isClosed | close => true
  | next | relative _ | jump _ | position | isBeforeFirst | isFirst | isLast | isAfterLast | row
  | get _ _ | getByLabel _ _ | wasNull | findColumn _ | metadata | fetchSize | setFetchSize _
  | fetchDirection | setFetchDirection _ => false

/-- A closed result set refuses every operation that does not outlive closing, and is left alone. -/
theorem perform_of_closed (h : s.cursor.closed = true) {op : Operation α}
    (hop : op.outlivesClosing = false) : op.perform s = (.error .resultSetClosed, s) := by
  have hposition := position_of_closed h
  cases op with
  | next | relative _ | findColumn _ | metadata | setFetchSize _ => exact if_pos h
  | jump _ | wasNull | fetchSize | fetchDirection | setFetchDirection _ =>
    exact congrArg (·, s) (ifOpen_of_closed h _)
  | position => exact congrArg (·, s) hposition
  | isBeforeFirst | isFirst | isLast | isAfterLast =>
    exact congrArg (fun p => (Except.map _ p, s)) hposition
  | row => exact congrArg (·, s) (row_of_closed h)
  | get read index => exact get_of_closed h read index
  | getByLabel read label => exact getByLabel_of_closed h read label
  | isClosed | close => cases hop

/-- No operation changes a closed result set. -/
theorem left_of_closed (h : s.cursor.closed = true) (op : Operation α) :
    (op.perform s).2 = s := by
  cases hop : op.outlivesClosing with
  | false => rw [perform_of_closed h hop]
  | true =>
    cases op with
    | close => exact congrArg (fun c => { s with cursor := c }) (Cursor.close_of_closed h)
    | isClosed => rfl
    | _ => cases hop

end Operation

/-! ## What happens later -/

/-- What can happen to a result set: an operation on it or on the cursor under it, or its caller is
told to stop waiting. -/
inductive Event
  | operation {α : Type} (op : Operation α)
  | onCursor {α : Type} (op : Cursor.Operation α)
  | interrupt

namespace Event

def after (s : ResultSet σ) : Event → ResultSet σ
  | operation op => (op.perform s).2
  | onCursor op => { s with cursor := (op.perform s.cursor).2 }
  | interrupt => s.interrupt

def interrupts : Event → Bool
  | interrupt => true
  | operation _ | onCursor _ => false

/-- The result set after events in turn. -/
def afterAll (s : ResultSet σ) (events : List Event) : ResultSet σ := events.foldl after s

theorem after_of_closed (h : s.cursor.closed = true) (e : Event) :
    e.after s = if e.interrupts then s.interrupt else s := by
  cases e with
  | operation op => exact op.left_of_closed h
  | onCursor op => exact congrArg (fun c => { s with cursor := c }) (op.left_of_closed h)
  | interrupt => rfl

/-- Whatever happens to a closed result set leaves it alone, but that its caller may be told to stop
waiting. -/
theorem left_of_closed (h : s.cursor.closed = true) (events : List Event) :
    afterAll s events = if events.any interrupts then s.interrupt else s := by
  induction events generalizing s with
  | nil => rfl
  | cons e events ih =>
    rw [afterAll, List.foldl_cons, ← afterAll, after_of_closed h, List.any_cons]
    cases e.interrupts with
    | false => exact ih h
    | true =>
      have hi : s.interrupt.cursor.closed = true := h
      simp only [if_true, Bool.true_or]
      rw [ih hi]
      split
      · rfl
      · rfl

end Event

/-! ## Main statement -/

/-- **Closing is final.** Whatever happens to a result set after it is closed, no request is sent
and nothing changes, but that its caller may be told to stop waiting. All that time every operation
on it or on its cursor is refused, with any arguments, except those that outlive closing: both say
that they are closed, closing again does nothing, and the query and the fetch size are those from
before. -/
theorem closed_for_good (s : ResultSet σ) (later : List Event) :
    let t := Event.afterAll s.close later
    t = (if later.any Event.interrupts then s.close.interrupt else s.close) ∧
    t.cursor.calls.sent = s.cursor.calls.sent ∧
    (∀ {α : Type} (op : Operation α), op.outlivesClosing = false →
      op.perform t = (.error (.closed "Result set"), t)) ∧
    (∀ index, t.getText index = (.error (.closed "Result set"), t)) ∧
    (∀ label, t.getTextByLabel label = (.error (.closed "Result set"), t)) ∧
    (∀ {α : Type} (op : Cursor.Operation α), op.outlivesClosing = false →
      op.perform t.cursor = (.error (.closed "Result cursor"), t.cursor)) ∧
    (Operation.isClosed.perform t = (.ok true, t) ∧ Operation.close.perform t = (.ok (), t) ∧
      t.query = s.query) ∧
    Cursor.Operation.isClosed.perform t.cursor = (.ok true, t.cursor) ∧
    Cursor.Operation.close.perform t.cursor = (.ok (), t.cursor) ∧
    Cursor.Operation.query.perform t.cursor = (.ok s.query, t.cursor) ∧
    Cursor.Operation.fetchSize.perform t.cursor = (.ok s.cursor.settings.fetchSize, t.cursor) := by
  intro t
  obtain ⟨hclosed, hsettings⟩ := s.cursor.close_eq
  obtain ⟨hsent, hquery⟩ := s.cursor.close_fields
  have ht : t = if later.any Event.interrupts then s.close.interrupt else s.close :=
    Event.left_of_closed hclosed later
  have hc : t.cursor.closed = true ∧ t.cursor.calls.sent = s.cursor.calls.sent ∧
      t.cursor.query = s.query ∧ t.cursor.settings = s.cursor.settings := by
    rw [ht]
    split
    · exact ⟨hclosed, hsent, hquery, hsettings⟩
    · exact ⟨hclosed, hsent, hquery, hsettings⟩
  obtain ⟨hc, hs, hq, hsize⟩ := hc
  have hleft := Cursor.close_of_closed hc
  refine ⟨ht, hs, fun op hop => op.perform_of_closed hc hop, get_of_closed hc _,
    getByLabel_of_closed hc _, fun op hop => op.perform_of_closed hc hop,
    ⟨congrArg (Except.ok ·, t) hc, ?_, hq⟩, congrArg (Except.ok ·, t.cursor) hc, ?_, ?_, ?_⟩
  · exact Prod.ext rfl (Operation.close.left_of_closed hc)
  · exact Prod.ext rfl hleft
  · exact congrArg (Except.ok ·, t.cursor) hq
  · exact congrArg (fun settings => (Except.ok settings.fetchSize, t.cursor)) hsize

/-- Closed on a row: a reading by label is refused without a look at the columns, and after it and
an interruption the cursor refuses to move. -/
theorem closed_on_first_row :
    let row (text : String) : Row := ⟨[some text]⟩
    let page : Page :=
      { next := some "t2", rows := [row "col1", row "a"], columns := [.ofName "col1" "varchar"] }
    let calls : Calls (List Service.Reply) :=
      { query := "Q1", service := .script, state := [⟨.page page, false⟩] }
    let s := (next { cursor := { calls } }).2
    let t := Event.afterAll s.close [.operation (.getByLabel Cell.text "col1"), .interrupt]
    s.cursor.row = some (row "a") ∧
      (Operation.getByLabel Cell.text "col1").outlivesClosing = false ∧
      s.close.getByLabel Cell.text "col1" = (.error (.closed "Result set"), s.close) ∧
      Cursor.Operation.advance.perform t.cursor = (.error (.closed "Result cursor"), t.cursor) ∧
      t = s.close.interrupt ∧ t.cursor.calls.sent = [⟨"Q1", none, 1000⟩] := by
  intro row page calls s t
  obtain ⟨-, -, hrefused, -⟩ := closed_for_good s []
  obtain ⟨ht, hsent, -, -, -, hcursor, -⟩ :=
    closed_for_good s [.operation (.getByLabel Cell.text "col1"), .interrupt]
  exact ⟨rfl, rfl, hrefused (.getByLabel Cell.text "col1") rfl, hcursor .advance rfl, ht, hsent⟩

end ResultSet

end ResultFlow
