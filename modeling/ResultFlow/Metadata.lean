import ResultFlow.Page

/-!
# Column metadata

The columns of a result, addressed from 1 or by label.
-/

namespace ResultFlow

/-- Whether a column may hold NULL. -/
inductive Nullability
  | notNull
  | nullable
  | unknown
  deriving DecidableEq

/-- The meaning of the word that the service sends, in any case. -/
def Nullability.ofWord : Option String → Nullability
  | none => unknown
  | some w =>
    if Text.sameIgnoringCase w "NOT_NULL" then notNull
    else if Text.sameIgnoringCase w "NULLABLE" then nullable
    else unknown

/-- The columns of a result. -/
structure Metadata where
  columns : List Column
  deriving DecidableEq, Inhabited

namespace Metadata

def columnCount (m : Metadata) : Nat := m.columns.length

/-- The column at a place counted from 1. -/
def column (m : Metadata) (index : Nat) : Except Error Column :=
  match index with
  | 0 => .error .columnZero
  | i + 1 => match m.columns[i]? with
    | some c => .ok c
    | none => .error (.columnBeyond index m.columnCount)

/-- The place of the first column with a label. -/
def findColumn (m : Metadata) (label : String) : Option Nat :=
  (m.columns.findIdx? (·.label = label)).map (· + 1)

def nullability (m : Metadata) (index : Nat) : Except Error Nullability :=
  (m.column index).map (.ofWord ·.nullable)

end Metadata

end ResultFlow
