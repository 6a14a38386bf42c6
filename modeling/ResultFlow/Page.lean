import ResultFlow.Cell

/-!
# Pages of a result

A result comes in pages. Each has rows, the description of its columns, and a token that names the
next page, or none on the last one. The first row of a result holds the column names.
-/

namespace ResultFlow

/-- One row: cells in column order. -/
structure Row where
  cells : List Cell
  deriving DecidableEq, Inhabited

namespace Row

/-- The cell at a place counted from 0; beyond the row it reads as NULL. -/
def value (r : Row) (i : Nat) : Cell := (r.cells[i]?).join

def size (r : Row) : Nat := r.cells.length

def isEmpty (r : Row) : Bool := r.cells.isEmpty

end Row

/-- The description of a column. -/
structure Column where
  catalog : Option String := none
  schema : Option String := none
  table : Option String := none
  name : String
  /-- The label as it was sent; without one the name stands in. -/
  sentLabel : Option String := none
  type : String
  precision : Int := 0
  scale : Int := 0
  nullable : Option String := none
  caseSensitive : Bool := false
  deriving DecidableEq, Inhabited

namespace Column

/-- A column whose label is its name. -/
def ofName (name type : String) : Column := { name, type, sentLabel := some name }

/-- The label, or the name where there is none. -/
def label (c : Column) : String := c.sentLabel.getD c.name

end Column

/-- One page of a result. -/
structure Page where
  /-- The token of the next page; the last page has none. -/
  next : Option String := none
  rows : List Row := []
  columns : List Column := []
  deriving DecidableEq, Inhabited

/-- A request for one page: of which query, which page, and at most how many rows. -/
structure PageRequest where
  query : String
  token : Option String
  maxRows : Nat
  deriving DecidableEq, Inhabited

end ResultFlow
