import ResultFlow.Metadata
import ResultFlow.Page.Calls

/-!
# Cursors

A cursor moves forward over the rows of a result. It loads a page when the rows of the last one are
used up and that page named another, at most one page for each move. The first page begins with the
column names, which are not a row of the result. A page that cannot be loaded leaves the cursor
where it was, so that the move can be tried again.
-/

namespace ResultFlow

/-- Where a cursor stands. -/
inductive Position
  | beforeFirst
  | first
  | middle
  | last
  | afterLast
  deriving DecidableEq, Inhabited

/-- A cursor over the rows of a query. -/
structure Cursor (σ : Type) where
  calls : Calls σ
  settings : CursorSettings := {}
  /-- Whether waiting for a page ends when the caller is interrupted. -/
  watching : Bool := false
  /-- The moves that succeeded, the ones past the end among them. -/
  rowNumber : Nat := 0
  /-- The rows of the loaded page that are still ahead. -/
  ahead : Option (List Row) := none
  row : Option Row := none
  /-- The token of the page after the loaded one. -/
  token : Option String := none
  metadata : Option Metadata := none
  closed : Bool := false

namespace Cursor

variable {σ : Type}

def query (c : Cursor σ) : String := c.calls.query

def interrupt (c : Cursor σ) : Cursor σ := { c with calls := c.calls.interrupt }

/-- Whether the next move needs a page that is not loaded. -/
def needsPage (c : Cursor σ) : Bool :=
  match c.ahead with
  | none => c.rowNumber == 0
  | some rows => c.token.isSome && rows.isEmpty

/-- The rows of a page, without the column names that come before the first row. -/
def rowsOf (c : Cursor σ) (p : Page) : List Row :=
  if c.rowNumber = 0 then p.rows.drop 1 else p.rows

/-- The cursor after a page arrived. The columns are those of the first page. -/
def load (c : Cursor σ) (p : Page) : Cursor σ :=
  let rows := c.rowsOf p
  { c with
    calls := c.calls.log (.pageLoaded c.query rows.length p.next.isSome)
    ahead := some rows
    token := p.next
    metadata := c.metadata <|> some ⟨p.columns⟩ }

/-- Loads the next page if it is needed. -/
def ensurePage (c : Cursor σ) : Except Error Unit × Cursor σ :=
  if c.needsPage then
    match c.calls.fetch c.token c.settings.fetchSize c.settings.pageTimeout c.watching with
    | (.ok p, calls) => (.ok (), { c with calls }.load p)
    | (.error e, calls) => (.error e, { c with calls })
  else (.ok (), c)

/-- Takes the next of the rows ahead. -/
def step (c : Cursor σ) : Cursor σ :=
  { c with
    rowNumber := c.rowNumber + 1
    row := c.ahead.bind List.head?
    ahead := c.ahead.map List.tail }

/-- Moves to the next row, and says whether there is one on the loaded page. -/
def advance (c : Cursor σ) : Except Error Bool × Cursor σ :=
  if c.closed then (.error .cursorClosed, c)
  else match c.ensurePage with
    | (.error e, c) => (.error e, c)
    | (.ok (), c) => (.ok c.step.row.isSome, c.step)

/-- The cell of the current row in a column counted from 1. -/
def cell (c : Cursor σ) (index : Nat) : Except Error Cell :=
  if c.closed then .error .cursorClosed
  else match c.row with
    | none => .error .noCurrentRow
    | some r =>
      if index < 1 ∨ r.size < index then .error (.cellMissing index r.size)
      else .ok (r.value (index - 1))

/-- The columns of the result. The first page is loaded for them if none was loaded. -/
def getMetadata (c : Cursor σ) : Except Error Metadata × Cursor σ :=
  if c.closed then (.error .cursorClosed, c)
  else match c.metadata with
    | some m => (.ok m, c)
    | none => match c.ensurePage with
      | (.error e, c) => (.error e, c)
      | (.ok (), c) => match c.metadata with
        | some m => (.ok m, c)
        | none => (.error .metadataUnavailable, c)

/-- The number of moves that succeeded. -/
def getRowNumber (c : Cursor σ) : Except Error Nat :=
  if c.closed then .error .cursorClosed else .ok c.rowNumber

/-- Whether no row is ahead on any page. -/
def exhausted (c : Cursor σ) : Bool := c.token.isNone && c.ahead == some []

/-- Where the cursor stands. The only row of a result is its first. -/
def position (c : Cursor σ) : Except Error Position :=
  if c.closed then .error .cursorClosed
  else if c.rowNumber = 0 then .ok .beforeFirst
  else if c.exhausted && c.row.isNone then .ok .afterLast
  else if c.rowNumber = 1 then .ok .first
  else if c.exhausted then .ok .last
  else .ok .middle

/-- Changes the number of rows of the next page request. -/
def setFetchSize (c : Cursor σ) (size : Nat) : Except Error Unit × Cursor σ :=
  if c.closed then (.error .cursorClosed, c)
  else match checkFetchSize size with
    | .error e => (.error e, c)
    | .ok n => (.ok (), { c with settings := { c.settings with fetchSize := n } })

/-- Lets go of the loaded page, for good. -/
def close (c : Cursor σ) : Cursor σ :=
  if c.closed then c
  else { c with
    calls := c.calls.log (.cursorClosing c.query)
    closed := true
    ahead := none
    row := none
    token := none }

end Cursor

end ResultFlow
