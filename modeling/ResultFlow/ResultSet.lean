import ResultFlow.Cursor

/-!
# Result sets

The view of a cursor that callers use: forward movement, positions, and values by column or by
label. A reading is checked in a fixed order: open, on a row, column known, cell there. `wasNull`
tells of the last cell that a reading reached.
-/

namespace ResultFlow

/-- The order in which a caller expects to see rows. -/
inductive FetchDirection
  | forward
  | reverse
  | unknown
  deriving DecidableEq, Inhabited

/-- A result set over a cursor. -/
structure ResultSet (σ : Type) where
  cursor : Cursor σ
  /-- Whether the last cell that was reached is NULL. -/
  null : Bool := false

namespace ResultSet

variable {σ : Type} {α : Type}

/-- Runs an operation of the cursor, unless the result set is closed. -/
def onCursor (s : ResultSet σ) (op : Cursor σ → Except Error α × Cursor σ) :
    Except Error α × ResultSet σ :=
  if s.cursor.closed then (.error .resultSetClosed, s)
  else
    let (r, cursor) := op s.cursor
    (r, { s with cursor })

/-- The value of a property, unless the result set is closed. -/
def ifOpen (s : ResultSet σ) (value : Except Error α) : Except Error α :=
  if s.cursor.closed then .error .resultSetClosed else value

def query (s : ResultSet σ) : String := s.cursor.query

def interrupt (s : ResultSet σ) : ResultSet σ := { s with cursor := s.cursor.interrupt }

/-! ## Movement -/

/-- Moves to the next row. -/
def next (s : ResultSet σ) : Except Error Bool × ResultSet σ := s.onCursor Cursor.advance

/-- Moves `n` times, to the first failure; `moved` is the answer of the last move so far. -/
def advanceTimes (moved : Bool) : Nat → Cursor σ → Except Error Bool × Cursor σ
  | 0, c => (.ok moved, c)
  | n + 1, c =>
    match c.advance with
    | (.error e, c) => (.error e, c)
    | (.ok moved, c) => advanceTimes moved n c

/-- Moves forward by `rows` rows. -/
def relative (s : ResultSet σ) (rows : Int) : Except Error Bool × ResultSet σ :=
  s.onCursor fun c =>
    if rows < 1 then (.error .notForward, c) else advanceTimes false rows.toNat c

/-- The movements that a forward result set does not have. -/
inductive Jump
  | previous
  | absolute (row : Int)
  | first
  | last
  | beforeFirst
  | afterLast
  deriving DecidableEq

/-- Every jump is refused. -/
def jump (s : ResultSet σ) (_ : Jump) : Except Error Bool := s.ifOpen (.error .forwardOnly)

/-! ## Position -/

def position (s : ResultSet σ) : Except Error Position := s.ifOpen s.cursor.position

def isBeforeFirst (s : ResultSet σ) : Except Error Bool := s.position.map (· == .beforeFirst)

def isFirst (s : ResultSet σ) : Except Error Bool := s.position.map (· == .first)

def isLast (s : ResultSet σ) : Except Error Bool := s.position.map (· == .last)

def isAfterLast (s : ResultSet σ) : Except Error Bool := s.position.map (· == .afterLast)

/-- The number of the current row, or 0 before the first and after the last. -/
def row (s : ResultSet σ) : Except Error Nat :=
  match s.position with
  | .error e => .error e
  | .ok .beforeFirst | .ok .afterLast => .ok 0
  | .ok _ => s.cursor.getRowNumber

/-! ## Values -/

/-- Whether a cell can be read where the cursor stands. -/
def checkRow (c : Cursor σ) : Except Error Unit :=
  match c.position with
  | .error e => .error e
  | .ok .beforeFirst => .error .beforeFirstRow
  | .ok _ => if c.row.isSome then .ok () else .error .afterLastRow

/-- The columns, which include the one of that number. -/
def checkColumn (c : Cursor σ) (index : Nat) : Except Error Unit × Cursor σ :=
  if index < 1 then (.error .columnZero, c)
  else match c.getMetadata with
    | (.error e, c) => (.error e, c)
    | (.ok m, c) =>
      if m.columnCount < index then (.error (.columnBeyond index m.columnCount), c)
      else (.ok (), c)

/-- The cell of a column of the current row. -/
def cell (s : ResultSet σ) (index : Nat) : Except Error Cell × ResultSet σ :=
  if s.cursor.closed then (.error .resultSetClosed, s)
  else match checkRow s.cursor with
    | .error e => (.error e, s)
    | .ok () => match checkColumn s.cursor index with
      | (.error e, cursor) => (.error e, { s with cursor })
      | (.ok (), cursor) => match cursor.cell index with
        | .error e => (.error e, { s with cursor })
        | .ok value => (.ok value, { s with cursor, null := value.isNone })

/-- The value of a column of the current row. -/
def get (s : ResultSet σ) (read : Cell.Reader α) (index : Nat) : Except Error α × ResultSet σ :=
  match s.cell index with
  | (.error e, s) => (.error e, s)
  | (.ok value, s) => (read value, s)

/-- The number of the first column with a label. -/
def findColumn (s : ResultSet σ) (label : String) : Except Error Nat × ResultSet σ :=
  s.onCursor fun c =>
    match c.getMetadata with
    | (.error e, c) => (.error e, c)
    | (.ok m, c) => match m.findColumn label with
      | some index => (.ok index, c)
      | none => (.error (.labelUnknown label), c)

/-- The value of the first column with a label. -/
def getByLabel (s : ResultSet σ) (read : Cell.Reader α) (label : String) :
    Except Error α × ResultSet σ :=
  match s.findColumn label with
  | (.error e, s) => (.error e, s)
  | (.ok index, s) => s.get read index

/-- The text of a column, or none for NULL. -/
def getText (s : ResultSet σ) (index : Nat) : Except Error (Option String) × ResultSet σ :=
  s.get (Cell.optional Cell.text) index

/-- The text of the first column with a label, or none for NULL. -/
def getTextByLabel (s : ResultSet σ) (label : String) :
    Except Error (Option String) × ResultSet σ :=
  s.getByLabel (Cell.optional Cell.text) label

/-- Whether the last cell that was reached is NULL. -/
def wasNull (s : ResultSet σ) : Except Error Bool := s.ifOpen (.ok s.null)

/-! ## Settings and closing -/

/-- The columns of the result. -/
def metadata (s : ResultSet σ) : Except Error Metadata × ResultSet σ :=
  s.onCursor Cursor.getMetadata

def fetchSize (s : ResultSet σ) : Except Error Nat := s.ifOpen (.ok s.cursor.settings.fetchSize)

def setFetchSize (s : ResultSet σ) (size : Nat) : Except Error Unit × ResultSet σ :=
  s.onCursor (·.setFetchSize size)

def fetchDirection (s : ResultSet σ) : Except Error FetchDirection := s.ifOpen (.ok .forward)

/-- Accepts only the direction that a result set has. -/
def setFetchDirection (s : ResultSet σ) (d : FetchDirection) : Except Error Unit :=
  s.ifOpen (if d = .forward then .ok () else .error .forwardOnly)

def isClosed (s : ResultSet σ) : Bool := s.cursor.closed

def close (s : ResultSet σ) : ResultSet σ := { s with cursor := s.cursor.close }

end ResultSet

end ResultFlow
