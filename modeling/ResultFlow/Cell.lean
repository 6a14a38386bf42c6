import ResultFlow.Calendar
import ResultFlow.Error
import ResultFlow.Number.Decimal
import ResultFlow.Text

/-!
# Cells and their values

A cell of a result is a text or NULL. A `Cell.Reader` converts a cell to a value: NULL is zero for a
number and false for a truth value, and no text, date or timestamp. Dates and timestamps are read by
a `DateReader`, each by its format. `Cell.optional` keeps NULL apart.
-/

namespace ResultFlow

/-- A cell of a row; `none` is NULL. -/
abbrev Cell := Option String

namespace Cell

/-- A conversion of cells to values. -/
abbrev Reader (α : Type) := Cell → Except Error α

/-- The truth value of a cell: only NULL, `0` and `false` in any case are false. -/
def bool : Reader Bool
  | none => .ok false
  | some s => .ok !(s == "0" || Text.sameIgnoringCase s "false")

/-- The signed words that a cell can be read as. -/
inductive Word
  | byte
  | short
  | integer
  | long
  deriving DecidableEq

namespace Word

def bits : Word → Nat
  | byte => 8
  | short => 16
  | integer => 32
  | long => 64

def name : Word → String
  | byte => "byte"
  | short => "short"
  | integer => "integer"
  | long => "long"

end Word

/-- The whole number of a cell, within the range of a signed word. -/
def word (w : Word) : Reader Int
  | none => .ok 0
  | some s => match Integer.readWord? w.bits s.toList with
    | some n => .ok n
    | none => .error (.conversion s w.name)

/-- The single-precision number of a cell. -/
def float : Reader Float32
  | none => .ok 0
  | some s => match Decimal.bits? Binary.single s.toList with
    | some bits => .ok (Float32.ofBits bits.toUInt32)
    | none => .error (.conversion s "float")

/-- The double-precision number of a cell. -/
def double : Reader Float
  | none => .ok 0
  | some s => match Decimal.bits? Binary.double s.toList with
    | some bits => .ok (Float.ofBits bits.toUInt64)
    | none => .error (.conversion s "double")

/-- The text of a cell. -/
def text : Reader String
  | none => .error (.conversion "NULL" "string")
  | some s => .ok s

/-- How days are written in cells. -/
def dateFormat : String := "%Y-%m-%d"

/-- How dates with a time are written in cells. -/
def timestampFormat : String := "%Y-%m-%d %H:%M:%S%.f"

/-- The day written in a cell. -/
def date (reader : DateReader) : Reader Date
  | none => .error (.conversion "NULL" "date")
  | some s => match reader.date? s dateFormat with
    | some d => .ok d
    | none => .error (.conversion s "date")

/-- The date and time written in a cell. -/
def timestamp (reader : DateReader) : Reader Timestamp
  | none => .error (.conversion "NULL" "timestamp")
  | some s => match reader.timestamp? s timestampFormat with
    | some t => .ok t
    | none => .error (.conversion s "timestamp")

/-- A reader that gives `none` for NULL. -/
def optional {α : Type} (read : Reader α) : Reader (Option α)
  | none => .ok none
  | some s => (read (some s)).map some

end Cell

end ResultFlow
