import ResultFlow.Proofs.Cursor.Fetch
import ResultFlow.Proofs.Cursor.Operations

/-!
# Uses of a result

A caller uses a result through the operations of a result set or through the actions of the cursor
under it, and may mix the two. Every use but closing does to the cursor what some actions in turn do
(`Use.perform_cursor`): a move or a look at the columns is one action, and moving by `n` rows is as
many moves as are made before one fails. So a result that is still open was only acted on
(`Use.performAll_cursor`), and what every action keeps is kept by every use.
-/

namespace ResultFlow

variable {σ : Type} {α : Type}

namespace Cursor

/-- The moves that are tried when `n` are asked for: all of them, or up to the first that fails. -/
def movesTried : Nat → Cursor σ → Nat
  | 0, _ => 0
  | n + 1, c => match c.advance with
    | (.error _, _) => 1
    | (.ok _, d) => movesTried n d + 1

theorem movesTried_le (n : Nat) (c : Cursor σ) : c.movesTried n ≤ n := by
  induction n generalizing c with
  | zero => exact Nat.le_refl 0
  | succ n ih =>
    unfold movesTried
    split
    · omega
    · have := ih ‹Cursor σ›
      omega

theorem performAll_cons (c : Cursor σ) (a : Action) (actions : List Action) :
    c.performAll (a :: actions) = (c.perform a).performAll actions := rfl

theorem performAll_append (c : Cursor σ) (as bs : List Action) :
    c.performAll (as ++ bs) = (c.performAll as).performAll bs := List.foldl_append

/-! ## Closed cursors -/

theorem advance_of_closed {c : Cursor σ} (h : c.closed = true) :
    c.advance = (.error .cursorClosed, c) := if_pos h

theorem getMetadata_of_closed {c : Cursor σ} (h : c.closed = true) :
    c.getMetadata = (.error .cursorClosed, c) := if_pos h

theorem setFetchSize_of_closed {c : Cursor σ} (h : c.closed = true) (size : Nat) :
    c.setFetchSize size = (.error .cursorClosed, c) := if_pos h

/-- On a closed cursor an action does nothing, or tells the caller to stop waiting. -/
theorem perform_of_closed {c : Cursor σ} (h : c.closed = true) (a : Action) :
    c.perform a = c ∨ c.perform a = c.interrupt := by
  cases a with
  | advance => exact .inl (congrArg Prod.snd (advance_of_closed h))
  | metadata => exact .inl (congrArg Prod.snd (getMetadata_of_closed h))
  | setFetchSize size => exact .inl (congrArg Prod.snd (setFetchSize_of_closed h size))
  | interrupt => exact .inr rfl
  | cell _ | position | rowNumber => exact .inl rfl

theorem closed_performAll {c : Cursor σ} (h : c.closed = true) (actions : List Action) :
    (c.performAll actions).closed = true := by
  induction actions generalizing c with
  | nil => exact h
  | cons a actions ih =>
    refine ih ?_
    rcases perform_of_closed h a with he | he <;> rw [he] <;> exact h

theorem performAll_moves_of_closed {c : Cursor σ} (h : c.closed = true) (n : Nat) :
    c.performAll (.replicate n .advance) = c := by
  induction n with
  | zero => rfl
  | succ n ih =>
    rw [List.replicate_succ, performAll_cons, perform, advance_of_closed h]
    exact ih

/-- Columns that were found once are found again, without a further change. -/
theorem getMetadata_again {c d : Cursor σ} {m : Metadata} (h : c.getMetadata = (.ok m, d)) :
    d.getMetadata = (.ok m, d) := by
  have ho : c.closed = false := by
    rw [Bool.eq_false_iff]
    intro hc
    rw [getMetadata_of_closed hc] at h
    cases h
  rcases getMetadata_cases ho with ⟨m', -, he⟩ | ⟨-, -, -, he⟩ | ⟨p, calls, hm, -, he⟩ |
    ⟨e, calls, -, -, -, he⟩
  · rw [h] at he
    cases he
    exact h
  · rw [h] at he
    cases he
  · rw [h] at he
    cases he
    exact getMetadata_of_some (c := { c with calls }.load p) ho (load_metadata_of_none hm)
  · rw [h] at he
    cases he

end Cursor

namespace ResultSet

variable {s : ResultSet σ}

open Cursor (getMetadata_again getMetadata_of_closed movesTried performAll_cons)

/-! ## Operations as actions -/

/-- Moving many times tries moves until one fails. -/
theorem advanceTimes_cursor (moved : Bool) (n : Nat) (c : Cursor σ) :
    (advanceTimes moved n c).2 = c.performAll (List.replicate (c.movesTried n) .advance) := by
  induction n generalizing moved c with
  | zero => rfl
  | succ n ih =>
    have hp : c.perform .advance = c.advance.2 := rfl
    unfold advanceTimes movesTried
    rcases he : c.advance with ⟨e | b, d⟩
    · show d = c.perform .advance
      rw [hp, he]
    · show (advanceTimes b n d).2 = c.performAll (List.replicate (movesTried n d + 1) .advance)
      rw [List.replicate_succ, performAll_cons, hp, he]
      exact ih b d

/-- An operation of the cursor that does what some actions do. -/
theorem onCursor_cursor {op : Cursor σ → Except Error α × Cursor σ} (actions : List Cursor.Action)
    (hc : s.cursor.closed = true → s.cursor.performAll actions = s.cursor)
    (ho : (op s.cursor).2 = s.cursor.performAll actions) :
    (s.onCursor op).2.cursor = s.cursor.performAll actions := by
  unfold onCursor
  by_cases h : s.cursor.closed = true
  · rw [if_pos h]
    exact (hc h).symm
  · rw [if_neg h]
    exact ho

/-- Whether reading a cell gets as far as the columns. -/
def reachesColumns (s : ResultSet σ) (index : Nat) : Bool :=
  !s.cursor.closed && (checkRow s.cursor).toBool && decide (1 ≤ index)

theorem checkColumn_cursor (c : Cursor σ) {index : Nat} (h : 1 ≤ index) :
    (checkColumn c index).2 = c.getMetadata.2 := by
  unfold checkColumn
  rw [if_neg (Nat.not_lt.mpr h)]
  rcases c.getMetadata with ⟨e | m, d⟩
  · rfl
  · by_cases hm : m.columnCount < index
    · simp only [if_pos hm]
    · simp only [if_neg hm]

/-- Reading a cell looks at the columns or leaves the cursor alone. -/
theorem cell_cursor (s : ResultSet σ) (index : Nat) :
    (s.cell index).2.cursor =
      if s.reachesColumns index then s.cursor.getMetadata.2 else s.cursor := by
  unfold cell reachesColumns
  by_cases hc : s.cursor.closed = true
  · simp [hc]
  · rw [if_neg hc]
    simp only [Bool.eq_false_iff.mpr hc, Bool.not_false, Bool.true_and]
    rcases checkRow s.cursor with e | _
    · rfl
    by_cases hi : 1 ≤ index
    · rw [← checkColumn_cursor s.cursor hi]
      simp only [Except.toBool, hi, decide_true, Bool.and_true, if_true]
      rcases checkColumn s.cursor index with ⟨e | _, d⟩
      · rfl
      · rcases hd : d.cell index with e | v <;> simp only [hd]
    · have hz : index < 1 := by omega
      simp [checkColumn, hz, hi]

theorem get_cursor (s : ResultSet σ) (read : Cell.Reader α) (index : Nat) :
    (s.get read index).2.cursor =
      if s.reachesColumns index then s.cursor.getMetadata.2 else s.cursor := by
  rw [← cell_cursor]
  unfold get
  rcases s.cell index with ⟨e | v, t⟩ <;> rfl

/-- A label is looked for in the columns, and found only if they are there. -/
theorem findColumn_cursor (s : ResultSet σ) (label : String) :
    (s.findColumn label).2.cursor = s.cursor.getMetadata.2 ∧
      ((s.findColumn label).1.toBool = true → s.cursor.getMetadata.1.toBool = true) := by
  unfold findColumn onCursor
  by_cases hc : s.cursor.closed = true
  · rw [if_pos hc, getMetadata_of_closed hc]
    exact ⟨rfl, id⟩
  · rw [if_neg hc]
    dsimp only
    rcases s.cursor.getMetadata with ⟨e | m, d⟩
    · exact ⟨rfl, id⟩
    · dsimp only
      cases m.findColumn label <;> exact ⟨rfl, fun _ => rfl⟩

/-- Reading by label looks at the columns; once they are there, reading the cell loads nothing. -/
theorem getByLabel_cursor (s : ResultSet σ) (read : Cell.Reader α) (label : String) :
    (s.getByLabel read label).2.cursor = s.cursor.getMetadata.2 := by
  obtain ⟨hf, hok⟩ := s.findColumn_cursor label
  unfold getByLabel
  rcases h : s.findColumn label with ⟨e | index, t⟩ <;> rw [h] at hf hok
  · exact hf
  · show (t.get read index).2.cursor = _
    rcases hm : s.cursor.getMetadata with ⟨e | m, d⟩ <;> rw [hm] at hf hok
    · cases hok rfl
    · rw [get_cursor, show t.cursor = d from hf, getMetadata_again hm, ite_self]

namespace Operation

/-- What an operation does to the cursor, as actions. -/
def actions : Operation α → ResultSet σ → List Cursor.Action
  | next, _ => [.advance]
  | relative rows, s =>
    if rows < 1 then [] else .replicate (s.cursor.movesTried rows.toNat) .advance
  | get _ index, s => if s.reachesColumns index then [.metadata] else []
  | getByLabel _ _, _ | findColumn _, _ | metadata, _ => [.metadata]
  | setFetchSize size, _ => [.setFetchSize size]
  | jump _, _ | position, _ | isBeforeFirst, _ | isFirst, _ | isLast, _ | isAfterLast, _ | row, _
  | wasNull, _ | fetchSize, _ | fetchDirection, _ | setFetchDirection _, _ | isClosed, _
  | close, _ => []

/-- Whether an operation closes the result. -/
def closes : Operation α → Bool
  | close => true
  | next | relative _ | jump _ | position | isBeforeFirst | isFirst | isLast | isAfterLast | row
  | get _ _ | getByLabel _ _ | wasNull | findColumn _ | metadata | fetchSize | setFetchSize _
  | fetchDirection | setFetchDirection _ | isClosed => false

/-- An operation that does not close the result acts on the cursor. -/
theorem perform_cursor {op : Operation α} (hop : op.closes = false) (s : ResultSet σ) :
    (op.perform s).2.cursor = s.cursor.performAll (op.actions s) := by
  cases op with
  | next =>
    exact onCursor_cursor [.advance]
      (fun hc => congrArg Prod.snd (Cursor.advance_of_closed hc)) rfl
  | relative rows =>
    rw [actions]
    by_cases hr : rows < 1
    · rw [if_pos hr]
      exact onCursor_cursor [] (fun _ => rfl) (by rw [if_pos hr]; rfl)
    · rw [if_neg hr]
      refine onCursor_cursor _ (fun hc => Cursor.performAll_moves_of_closed hc _) ?_
      rw [if_neg hr]
      exact advanceTimes_cursor ..
  | get read index =>
    show (s.get read index).2.cursor = _
    rw [get_cursor, actions]
    by_cases hr : s.reachesColumns index = true
    · rw [if_pos hr, if_pos hr]
      rfl
    · rw [if_neg hr, if_neg hr]
      rfl
  | getByLabel read label => exact s.getByLabel_cursor read label
  | findColumn label => exact (s.findColumn_cursor label).1
  | metadata =>
    exact onCursor_cursor [.metadata]
      (fun hc => congrArg Prod.snd (getMetadata_of_closed hc)) rfl
  | setFetchSize size =>
    exact onCursor_cursor [.setFetchSize size]
      (fun hc => congrArg Prod.snd (Cursor.setFetchSize_of_closed hc size)) rfl
  | close => cases hop
  | _ => rfl

end Operation

/-! ## Uses -/

/-- What a caller does: an operation of the result set, or an action on the cursor under it. -/
inductive Use
  | operation {α : Type} (op : Operation α)
  | action (a : Cursor.Action)

namespace Use

def perform (s : ResultSet σ) : Use → ResultSet σ
  | operation op => (op.perform s).2
  | action a => { s with cursor := s.cursor.perform a }

/-- What a use does to the cursor, as actions. -/
def actions (s : ResultSet σ) : Use → List Cursor.Action
  | operation op => op.actions s
  | action a => [a]

/-- Whether a use closes the result. -/
def closes : Use → Bool
  | operation op => op.closes
  | action _ => false

/-- The result set after uses in turn. -/
def performAll (s : ResultSet σ) (uses : List Use) : ResultSet σ := uses.foldl perform s

/-- A use that does not close the result acts on the cursor. -/
theorem perform_cursor {u : Use} (hu : u.closes = false) (s : ResultSet σ) :
    (u.perform s).cursor = s.cursor.performAll (u.actions s) := by
  cases u with
  | operation op => exact op.perform_cursor hu s
  | action a => rfl

theorem perform_of_closes {u : Use} (hu : u.closes = true) (s : ResultSet σ) :
    (u.perform s).cursor = s.cursor.close := by
  cases u with
  | operation op =>
    cases op with
    | close => rfl
    | _ => cases hu
  | action a => cases hu

/-! ## Results that are still open -/

theorem closed_perform (h : s.cursor.closed = true) (u : Use) :
    (u.perform s).cursor.closed = true := by
  cases hu : u.closes with
  | true =>
    rw [perform_of_closes hu]
    exact s.cursor.close_eq.1
  | false =>
    rw [perform_cursor hu]
    exact Cursor.closed_performAll h _

theorem closed_performAll (h : s.cursor.closed = true) (uses : List Use) :
    (performAll s uses).cursor.closed = true := by
  induction uses generalizing s with
  | nil => exact h
  | cons u uses ih => exact ih (closed_perform h u)

/-- A result that is still open was only acted on. -/
theorem performAll_cursor {uses : List Use} (h : (performAll s uses).cursor.closed = false) :
    ∃ actions, (performAll s uses).cursor = s.cursor.performAll actions := by
  induction uses generalizing s with
  | nil => exact ⟨[], rfl⟩
  | cons u uses ih =>
    have hu : u.closes = false := by
      rw [Bool.eq_false_iff]
      intro hu
      have hc : (u.perform s).cursor.closed = true := by
        rw [perform_of_closes hu]
        exact s.cursor.close_eq.1
      rw [performAll, List.foldl_cons, ← performAll, closed_performAll hc] at h
      cases h
    obtain ⟨actions, he⟩ := ih h
    refine ⟨u.actions s ++ actions, ?_⟩
    rw [Cursor.performAll_append, ← perform_cursor hu]
    exact he

end Use

end ResultSet

end ResultFlow
