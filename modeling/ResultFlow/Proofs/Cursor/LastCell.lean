import ResultFlow.Proofs.Cursor.Access

/-!
# The last cell that was reached

A reading reaches a cell if the cursor stands on a row, and the column it asks for is one of the
result and of that row. `wasNull` tells of the last cell that was reached since the result set was
made, whatever else was done in between and however the conversion of the cell went.

1. `Access` is what the two kinds of reading have in common, and `Access.reached` the cell that one
   reaches.
2. `perform_of_reached` and `perform_of_not_reached` are the two outcomes of a reading, and
   `Operation.null_perform` is what any operation does to the note of the last cell.
3. Main statement: the note after any uses, by induction on them.
-/

namespace ResultFlow

variable {σ α : Type}

namespace Metadata

/-- The column at a place counted from 0 is the first with a label. -/
def FirstLabelled (m : Metadata) (label : String) (i : Nat) : Prop :=
  (∃ c, m.columns[i]? = some c ∧ c.label = label) ∧
    ∀ j < i, ∀ c, m.columns[j]? = some c → c.label ≠ label

theorem findColumn_eq_some_iff {m : Metadata} {label : String} {index : Nat} :
    m.findColumn label = some index ↔ ∃ i, index = i + 1 ∧ m.FirstLabelled label i := by
  unfold findColumn FirstLabelled
  simp only [Option.map_eq_some_iff, List.findIdx?_eq_some_iff_getElem, decide_eq_true_eq]
  constructor
  · rintro ⟨i, ⟨hi, hc, hbefore⟩, rfl⟩
    refine ⟨i, rfl, ⟨_, List.getElem?_eq_getElem hi, hc⟩, fun j hj c hcj => ?_⟩
    obtain ⟨-, rfl⟩ := List.getElem?_eq_some_iff.mp hcj
    exact hbefore j hj
  · rintro ⟨i, rfl, ⟨c, hci, hc⟩, hbefore⟩
    obtain ⟨hi, rfl⟩ := List.getElem?_eq_some_iff.mp hci
    refine ⟨i, ⟨hi, hc, fun j hj => ?_⟩, rfl⟩
    exact hbefore j hj _ (List.getElem?_eq_getElem (Nat.lt_trans hj hi))

/-- The first column with a label is one of the columns. -/
theorem FirstLabelled.lt {m : Metadata} {label : String} {i : Nat} (h : m.FirstLabelled label i) :
    i < m.columnCount := by
  obtain ⟨⟨c, hc, -⟩, -⟩ := h
  exact (List.getElem?_eq_some_iff.mp hc).1

end Metadata

namespace ResultSet

variable {s : ResultSet σ}

open Cursor (getMetadata_of_some tracked_start)

/-! ## Readings -/

/-- What a reading asks for: the number of a column among those of the result, and the conversion of
the cell. -/
structure Access (α : Type) where
  column : Metadata → Option Nat
  read : Cell.Reader α

/-- An operation as a reading, if it is one. -/
def Operation.access? : Operation α → Option (Access α)
  | get read index => some ⟨fun _ => some index, read⟩
  | getByLabel read label => some ⟨(·.findColumn label), read⟩
  | next | relative _ | jump _ | position | isBeforeFirst | isFirst | isLast | isAfterLast | row
  | wasNull | findColumn _ | metadata | fetchSize | setFetchSize _ | fetchDirection
  | setFetchDirection _ | isClosed | close => none

namespace Access

/-- The cell that a reading reaches: that of its column in the current row, if the columns of the
result include it and the row is long enough. -/
def reached (a : Access α) (s : ResultSet σ) : Option Cell := do
  let r ← s.cursor.row
  let m ← s.cursor.metadata
  let index ← a.column m
  if 1 ≤ index ∧ index ≤ m.columnCount then r.cells[index - 1]? else none

theorem reached_of_row_none (hr : s.cursor.row = none) (a : Access α) : a.reached s = none := by
  unfold reached
  rw [hr]
  rfl

theorem reached_of_row {r : Row} (hr : s.cursor.row = some r) {m : Metadata}
    (hm : s.cursor.metadata = some m) (a : Access α) :
    a.reached s = (a.column m).bind fun index =>
      if 1 ≤ index ∧ index ≤ m.columnCount then r.cells[index - 1]? else none := by
  unfold reached
  rw [hr, hm]
  rfl

theorem reached_eq_some_iff {a : Access α} {v : Cell} : a.reached s = some v ↔
    ∃ r m index, s.cursor.row = some r ∧ s.cursor.metadata = some m ∧ a.column m = some index ∧
      1 ≤ index ∧ index ≤ m.columnCount ∧ r.cells[index - 1]? = some v := by
  constructor
  · intro h
    rcases hr : s.cursor.row with _ | r
    · rw [reached_of_row_none hr] at h
      cases h
    rcases hm : s.cursor.metadata with _ | m
    · unfold reached at h
      rw [hr, hm] at h
      cases h
    rw [reached_of_row hr hm, Option.bind_eq_some_iff] at h
    obtain ⟨index, hindex, h⟩ := h
    split at h
    · exact ⟨r, m, index, rfl, rfl, hindex, ‹_ ∧ _›.1, ‹_ ∧ _›.2, h⟩
    · cases h
  · rintro ⟨r, m, index, hr, hm, hindex, hi, hc, hv⟩
    rw [reached_of_row hr hm, hindex, Option.bind_some, if_pos ⟨hi, hc⟩]
    exact hv

end Access

/-- The cell that an operation reaches; only readings reach one. -/
def Operation.reached (op : Operation α) (s : ResultSet σ) : Option Cell :=
  op.access?.bind (·.reached s)

/-! ## Outcomes of a reading -/

/-- A column that the result or the row does not have cannot be read, and nothing changes. -/
theorem cell_of_row_missing (h : s.cursor.Tracked) {r : Row} (hr : s.cursor.row = some r)
    {m : Metadata} (hm : s.cursor.metadata = some m) {index : Nat}
    (hi : 1 ≤ index → index ≤ m.columnCount → r.size < index) :
    ∃ e, s.cell index = (.error e, s) := by
  have ho := h.placed.isOpen
  unfold cell checkColumn
  rw [if_neg (Bool.eq_false_iff.mp ho), checkRow_of_row h hr]
  dsimp only
  by_cases hz : index < 1
  · rw [if_pos hz]
    exact ⟨_, rfl⟩
  rw [if_neg hz, getMetadata_of_some ho hm]
  dsimp only
  by_cases hc : m.columnCount < index
  · rw [if_pos hc]
    exact ⟨_, rfl⟩
  have hcell : s.cursor.cell index = .error (.cellMissing index r.size) := by
    unfold Cursor.cell
    rw [if_neg (Bool.eq_false_iff.mp ho), hr]
    dsimp only
    rw [if_pos (.inr (hi (by omega) (by omega)))]
  rw [if_neg hc]
  dsimp only
  rw [hcell]
  exact ⟨_, rfl⟩

theorem findColumn_of_metadata (ho : s.cursor.closed = false) {m : Metadata}
    (hm : s.cursor.metadata = some m) (label : String) :
    s.findColumn label = ((m.findColumn label).elim (.error (.labelUnknown label)) .ok, s) := by
  unfold findColumn onCursor
  rw [if_neg (Bool.eq_false_iff.mp ho)]
  dsimp only
  rw [getMetadata_of_some ho hm]
  dsimp only
  cases m.findColumn label <;> rfl

namespace Operation

/-- With the columns known, a reading reads the column that it asks for, if they include it. -/
theorem perform_of_access {op : Operation α} {a : Access α} (hop : op.access? = some a)
    (ho : s.cursor.closed = false) {m : Metadata} (hm : s.cursor.metadata = some m) :
    (∃ index, a.column m = some index ∧ op.perform s = s.get a.read index) ∨
      (a.column m = none ∧ ∃ e, op.perform s = (.error e, s)) := by
  cases op with
  | get read index =>
    cases hop
    exact .inl ⟨index, rfl, rfl⟩
  | getByLabel read label =>
    cases hop
    show (∃ index, m.findColumn label = some index ∧ s.getByLabel read label = s.get read index) ∨
      (m.findColumn label = none ∧ ∃ e, s.getByLabel read label = (.error e, s))
    unfold ResultSet.getByLabel
    rw [findColumn_of_metadata ho hm]
    cases m.findColumn label with
    | none => exact .inr ⟨rfl, _, rfl⟩
    | some index => exact .inl ⟨index, rfl, rfl⟩
  | _ => cases hop

/-- A reading that reaches a cell notes whether it is NULL, and then converts it. -/
theorem perform_of_reached (h : s.cursor.Tracked) {op : Operation α} {a : Access α}
    (hop : op.access? = some a) {v : Cell} (hv : op.reached s = some v) :
    op.perform s = (a.read v, { s with null := v.isNone }) := by
  rw [reached, hop, Option.bind_some] at hv
  obtain ⟨r, m, index, hr, hm, hindex, hi, hc, hcell⟩ := Access.reached_eq_some_iff.mp hv
  rcases perform_of_access hop h.placed.isOpen hm with ⟨index', hindex', he⟩ | ⟨hnone, -⟩
  · cases hindex.symm.trans hindex'
    have hs : index - 1 < r.size := (List.getElem?_eq_some_iff.mp hcell).1
    have hvalue : r.value (index - 1) = v := by
      rw [Row.value, hcell]
      rfl
    rw [he, ResultSet.get, cell_of_row h hr hm hi hc (by omega), hvalue]
  · cases hindex.symm.trans hnone

/-- A reading that reaches no cell is refused, and keeps the note of the last one. -/
theorem perform_of_not_reached (h : s.cursor.Tracked) {op : Operation α} {a : Access α}
    (hop : op.access? = some a) (hv : op.reached s = none) :
    ∃ e t, op.perform s = (.error e, t) ∧ t.null = s.null := by
  have ho := h.placed.isOpen
  rw [reached, hop, Option.bind_some] at hv
  rcases Option.eq_none_or_eq_some s.cursor.row with hr | ⟨r, hr⟩
  · cases op with
    | get read index => exact ⟨_, s, get_of_row_none ho hr read index, rfl⟩
    | getByLabel read label =>
      obtain ⟨e, he⟩ := getByLabel_of_row_none ho hr read label
      exact ⟨e, _, he, rfl⟩
    | _ => cases hop
  obtain ⟨m, hm⟩ := h.columns_of_row (by rw [hr]; exact Option.some_ne_none r)
  rcases perform_of_access hop ho hm with ⟨index, hindex, he⟩ | ⟨-, e, he⟩
  · rw [Access.reached_of_row hr hm, hindex, Option.bind_some] at hv
    have hmissing : 1 ≤ index → index ≤ m.columnCount → r.size < index := by
      intro hi hc
      rw [if_pos ⟨hi, hc⟩, List.getElem?_eq_none_iff] at hv
      show r.cells.length < index
      omega
    obtain ⟨e, hcell⟩ := cell_of_row_missing h hr hm hmissing
    exact ⟨e, s, by rw [he, ResultSet.get, hcell], rfl⟩
  · exact ⟨e, s, he, rfl⟩

theorem onCursor_null (s : ResultSet σ) (op : Cursor σ → Except Error α × Cursor σ) :
    (s.onCursor op).2.null = s.null := by
  unfold onCursor
  split
  · rfl
  · rfl

/-- Only readings change the note of the last cell. -/
theorem null_of_no_access {op : Operation α} (hop : op.access? = none) (s : ResultSet σ) :
    (op.perform s).2.null = s.null := by
  cases op with
  | next => exact onCursor_null s _
  | relative rows => exact onCursor_null s _
  | findColumn label => exact onCursor_null s _
  | metadata => exact onCursor_null s _
  | setFetchSize size => exact onCursor_null s _
  | get read index => cases hop
  | getByLabel read label => cases hop
  | _ => rfl

/-- An operation notes whether the cell that it reaches is NULL, and without one keeps the note. -/
theorem null_perform (h : s.cursor.Tracked) (op : Operation α) :
    (op.perform s).2.null = (op.reached s).elim s.null Option.isNone := by
  cases hop : op.access? with
  | none =>
    rw [reached, hop]
    exact op.null_of_no_access hop s
  | some a =>
    cases hv : op.reached s with
    | none =>
      obtain ⟨e, t, he, ht⟩ := perform_of_not_reached h hop hv
      rw [he]
      exact ht
    | some v =>
      rw [perform_of_reached h hop hv]
      rfl

end Operation

/-! ## Uses -/

namespace Use

/-- The cell that a use reaches. -/
def reached (s : ResultSet σ) : Use → Option Cell
  | operation op => op.reached s
  | action _ => none

/-- The cells that uses in turn reach. -/
def reachedAll (s : ResultSet σ) : List Use → List Cell
  | [] => []
  | u :: uses => (u.reached s).toList ++ reachedAll (u.perform s) uses

theorem null_perform (h : s.cursor.Tracked) (u : Use) :
    (u.perform s).null = (u.reached s).elim s.null Option.isNone := by
  cases u with
  | operation op => exact op.null_perform h
  | action a => rfl

/-- The note after uses is that of the last cell that they reach. -/
theorem null_performAll (h : s.cursor.Tracked) {uses : List Use}
    (ho : (performAll s uses).cursor.closed = false) :
    (performAll s uses).null = (reachedAll s uses).getLast?.elim s.null Option.isNone := by
  induction uses generalizing s with
  | nil => rfl
  | cons u uses ih =>
    have hu : (u.perform s).cursor.closed = false := by
      rw [Bool.eq_false_iff]
      intro hc
      exact Bool.eq_false_iff.mp ho (closed_performAll hc uses)
    have ht : (performAll s [u]).cursor.Tracked := tracked_performAll h hu
    have hrest : (performAll (u.perform s) uses).null = _ := ih ht ho
    rw [performAll, List.foldl_cons, ← performAll, hrest, null_perform h u, reachedAll,
      List.getLast?_append]
    cases (reachedAll (u.perform s) uses).getLast? with
    | some v => rfl
    | none => cases u.reached s <;> rfl

end Use

/-! ## Main statement -/

/-- **The last cell.** A result set that was used and is still open tells that the last value was
NULL exactly if a cell was reached and the last one was NULL. A reading, of whatever conversion,
reaches a cell exactly if there is a current row with a cell in the column asked for, and the result
has that column: the one of the number, or the first with the label. It notes whether the cell is
NULL before the cell is converted, so also if that fails. A reading that reaches no cell is refused.
It keeps the note, and so does every other operation. -/
theorem wasNull_iff_last_reached (calls : Calls σ) (settings : CursorSettings) (watching : Bool)
    (uses : List Use) :
    let new : ResultSet σ := { cursor := { calls, settings, watching } }
    let s := Use.performAll new uses
    s.cursor.closed = false →
      s.wasNull = .ok (decide ((Use.reachedAll new uses).getLast? = some none)) ∧
      ∀ {α : Type},
        (∀ (read : Cell.Reader α) (index : Nat) (v : Cell),
          (Operation.get read index).reached s = some v ↔
            ∃ r m, s.cursor.row = some r ∧ s.cursor.metadata = some m ∧ 1 ≤ index ∧
              index ≤ m.columnCount ∧ r.cells[index - 1]? = some v) ∧
        (∀ (read : Cell.Reader α) (label : String) (v : Cell),
          (Operation.getByLabel read label).reached s = some v ↔
            ∃ r m i, s.cursor.row = some r ∧ s.cursor.metadata = some m ∧
              m.FirstLabelled label i ∧ r.cells[i]? = some v) ∧
        ∀ op : Operation α,
          (∀ a v, op.access? = some a → op.reached s = some v →
            op.perform s = (a.read v, { s with null := v.isNone })) ∧
          (∀ a, op.access? = some a → op.reached s = none → ∃ e, (op.perform s).1 = .error e) ∧
          (op.reached s = none → (op.perform s).2.null = s.null) := by
  intro new s ho
  have h : s.cursor.Tracked := Use.tracked_performAll (tracked_start calls settings watching) ho
  refine ⟨?_, fun {α} => ⟨fun read index v => ?_, fun read label v => ?_, fun op => ⟨fun a v hop =>
    Operation.perform_of_reached h hop, fun a hop hv => ?_, fun hv => ?_⟩⟩⟩
  · have hnull : s.null = (Use.reachedAll new uses).getLast?.elim false Option.isNone :=
      Use.null_performAll (tracked_start calls settings watching) ho
    rw [wasNull, ifOpen, if_neg (Bool.eq_false_iff.mp ho), hnull]
    rcases (Use.reachedAll new uses).getLast? with _ | _ | v <;> rfl
  · refine Access.reached_eq_some_iff.trans ⟨?_, ?_⟩
    · rintro ⟨r, m, index', hr, hm, hindex, hcell⟩
      cases hindex
      exact ⟨r, m, hr, hm, hcell⟩
    · rintro ⟨r, m, hr, hm, hcell⟩
      exact ⟨r, m, index, hr, hm, rfl, hcell⟩
  · refine Access.reached_eq_some_iff.trans ⟨?_, ?_⟩
    · rintro ⟨r, m, index, hr, hm, hindex, -, -, hcell⟩
      obtain ⟨i, rfl, hi⟩ := Metadata.findColumn_eq_some_iff.mp hindex
      exact ⟨r, m, i, hr, hm, hi, hcell⟩
    · rintro ⟨r, m, i, hr, hm, hi, hcell⟩
      exact ⟨r, m, i + 1, hr, hm, Metadata.findColumn_eq_some_iff.mpr ⟨i, rfl, hi⟩,
        Nat.succ_pos i, hi.lt, hcell⟩
  · obtain ⟨e, t, he, -⟩ := Operation.perform_of_not_reached h hop hv
    exact ⟨e, congrArg Prod.fst he⟩
  · rw [op.null_perform h, hv]
    rfl

/-- Over a row that is shorter than the columns: a date that cannot be converted and a NULL that is
no text are reached, the third column is not, and a column is the first with its label. -/
theorem wasNull_over_short_row :
    let page : Page := {
      rows := [⟨[some "a", some "b", some "b"]⟩, ⟨[some "x", none]⟩]
      columns := [.ofName "a" "date", .ofName "b" "varchar", .ofName "b" "varchar"] }
    let calls : Calls (List Service.Reply) :=
      { query := "Q1", service := .script, state := [⟨.page page, false⟩] }
    let new : ResultSet (List Service.Reply) := { cursor := { calls } }
    let early : List Use := [.operation (.getByLabel Cell.text "b"), .operation .next,
      .operation (.get (Cell.date .itemwise) 1)]
    let late : List Use := early ++ [.operation (.getByLabel Cell.text "b"),
      .operation (.get Cell.text 3), .operation .next]
    let s := Use.performAll new early
    let t := Use.performAll new late
    Use.reachedAll new early = [some "x"] ∧ s.wasNull = .ok false ∧
      (Operation.getByLabel Cell.text "b").perform s =
        (.error (.conversion "NULL" "string"), { s with null := true }) ∧
      (∃ e, ((Operation.get Cell.text 3).perform s).1 = .error e) ∧
      (Operation.next.perform s).2.null = s.null ∧
      Use.reachedAll new late = [some "x", none] ∧ t.wasNull = .ok true := by
  intro page calls new early late s t
  obtain ⟨hs, hat⟩ := wasNull_iff_last_reached calls {} false early (by decide +kernel)
  obtain ⟨ht, -⟩ := wasNull_iff_last_reached calls {} false late (by decide +kernel)
  obtain ⟨-, -, hop⟩ := hat (α := String)
  obtain ⟨-, -, hmove⟩ := hat (α := Bool)
  have hearly : Use.reachedAll new early = [some "x"] := by decide +kernel
  have hlate : Use.reachedAll new late = [some "x", none] := by decide +kernel
  have hnull := (hop (.getByLabel Cell.text "b")).1 ⟨(·.findColumn "b"), Cell.text⟩ none rfl
    (by decide +kernel)
  have hshort := (hop (.get Cell.text 3)).2.1 ⟨fun _ => some 3, Cell.text⟩ rfl (by decide +kernel)
  refine ⟨hearly, hs.trans ?_, hnull, hshort, (hmove .next).2.2 rfl, hlate, ht.trans ?_⟩
  · show Except.ok (decide ((Use.reachedAll new early).getLast? = some none)) = _
    rw [hearly]
    rfl
  · show Except.ok (decide ((Use.reachedAll new late).getLast? = some none)) = _
    rw [hlate]
    rfl

end ResultSet

end ResultFlow
