import ResultFlow.Proofs.Cursor.Access
import ResultFlow.Proofs.Cursor.Rows

/-!
# Row numbers

What the number of a row tells. A cursor counts its moves, and its rows come from pages. The count is
that of the rows visited as long as every move finds a row. A move may also load a page that names
another one and has no row for it, a *gap*: it reports the end, is counted, and leaves the cursor
without a row at the position of one.

1. `Use.actionsAll` are the actions of a run of uses, and `Cursor.gaps` counts the gaps among them.
2. `History.Counted` relates the row number to the rows visited and the gaps; every action keeps it.
3. Main statement: position, row number and current row agree exactly if there was no gap, or the
   result set shows no number.
-/

namespace ResultFlow

variable {σ : Type}

/-! ## The actions of a run of uses -/

namespace ResultSet

/-- What uses in turn do to the cursor, as actions. -/
def Use.actionsAll : ResultSet σ → List Use → List Cursor.Action
  | _, [] => []
  | s, u :: uses => u.actions s ++ actionsAll (u.perform s) uses

/-- A result that is still open was acted on by these actions. -/
theorem Use.performAll_eq {s : ResultSet σ} {uses : List Use}
    (h : (performAll s uses).cursor.closed = false) :
    (performAll s uses).cursor = s.cursor.performAll (actionsAll s uses) := by
  induction uses generalizing s with
  | nil => rfl
  | cons u uses ih =>
    have hu : u.closes = false := by
      rw [Bool.eq_false_iff]
      intro hu
      have hc : (u.perform s).cursor.closed = true := by
        rw [perform_of_closes hu]
        exact s.cursor.close_eq.1
      have hlater : (performAll s (u :: uses)).cursor.closed = true := closed_performAll hc uses
      exact absurd (h.symm.trans hlater) Bool.false_ne_true
    rw [actionsAll, Cursor.performAll_append, ← perform_cursor hu]
    exact ih h

end ResultSet

/-! ## Gaps -/

/-- Whether a position is that of a row. -/
def Position.isRow : Position → Bool
  | first | middle | last => true
  | beforeFirst | afterLast => false

namespace Cursor

variable {c : Cursor σ}

/-- Whether an action is a move that loads a page which names another one and has no row for it. -/
def isGap (c : Cursor σ) : Action → Bool
  | .advance => match c.arrival with
    | some p => (c.rowsOf p).isEmpty && p.next.isSome
    | none => false
  | .metadata | .cell _ | .setFetchSize _ | .position | .rowNumber | .interrupt => false

/-- The gaps that actions in turn meet. -/
def gaps : Cursor σ → List Action → Nat
  | _, [] => 0
  | c, a :: actions => (c.isGap a).toNat + (c.perform a).gaps actions

theorem isGap_of_no_arrival (ha : c.arrival = none) : c.isGap .advance = false := by
  rw [isGap, ha]

theorem isGap_of_ne {a : Action} (ha : a ≠ .advance) : c.isGap a = false := by
  cases a with
  | advance => exact absurd rfl ha
  | _ => rfl

theorem visits_of_ne {a : Action} (ha : a ≠ .advance) : c.visits a = [] := by
  cases a with
  | advance => exact absurd rfl ha
  | _ => rfl

/-- At the position of a row the cursor has moved, and it has a row or more is to come. -/
theorem place_isRow_iff :
    c.place.isRow = true ↔ c.rowNumber ≠ 0 ∧ ¬ (c.exhausted = true ∧ c.row = none) := by
  unfold place
  by_cases hz : c.rowNumber = 0
  · simp [hz, Position.isRow]
  by_cases hend : (c.exhausted && c.row.isNone) = true
  · have hn : c.exhausted = true ∧ c.row = none := by simpa using hend
    simp [hz, hn, Position.isRow]
  · have hn : ¬ (c.exhausted = true ∧ c.row = none) := by simpa using hend
    rw [if_neg hz, if_neg hend]
    refine iff_of_true ?_ ⟨hz, hn⟩
    split
    · rfl
    · split <;> rfl

/-- The number that is shown: none but at the position of a row. -/
def shown (c : Cursor σ) : Nat := if c.place.isRow then c.rowNumber else 0

theorem shown_of_isRow (hp : c.place.isRow = true) : c.shown = c.rowNumber := if_pos hp

theorem shown_ne_zero_iff : c.shown ≠ 0 ↔ c.place.isRow = true := by
  unfold shown
  by_cases hp : c.place.isRow = true
  · rw [if_pos hp]
    exact iff_of_true (place_isRow_iff.mp hp).1 hp
  · rw [if_neg hp]
    exact iff_of_false (fun hn => hn rfl) hp

end Cursor

/-! ## What every action keeps -/

namespace History

open Cursor

variable {h : History σ} {g : Nat}

/-- Until the cursor is past the last row it has counted the rows visited and the gaps. A current row
is the last one visited. Without one a cursor that has moved used up its page, and met a gap if that
page names another. -/
structure Counted (g : Nat) (h : History σ) : Prop where
  tracked : h.cursor.Tracked
  number : h.cursor.PastLast ∨ h.cursor.rowNumber = h.visited.length + g
  current : h.cursor.row ≠ none → h.visited.getLast? = h.cursor.row
  between : h.cursor.row = none → h.cursor.rowNumber ≠ 0 →
    h.cursor.ahead = some [] ∧ (h.cursor.token.isSome = true → 0 < g)

theorem counted_start (calls : Calls σ) (settings : CursorSettings) (watching : Bool) :
    Counted 0 (start calls settings watching) where
  tracked := tracked_start calls settings watching
  number := .inr rfl
  current hr := absurd rfl hr
  between _ hn := absurd rfl hn

/-- A change that touches neither the rows nor the token keeps the count. -/
theorem Counted.of_same (hc : h.Counted g) {c : Cursor σ} (ht : c.Tracked)
    (hn : c.rowNumber = h.cursor.rowNumber) (hr : c.row = h.cursor.row)
    (ha : c.ahead = h.cursor.ahead) (hk : c.token = h.cursor.token) {loads : List Load} :
    Counted g ⟨c, loads, h.visited⟩ where
  tracked := ht
  number := by
    rcases hc.number with hp | he
    · exact .inl ⟨ht.placed.isOpen, hn ▸ hp.moved, hr.trans hp.row, ha.trans hp.ahead,
        hk.trans hp.token⟩
    · exact .inr (hn.trans he)
  current := by simpa only [hr] using hc.current
  between := by simpa only [hr, hn, ha, hk] using hc.between

/-- A step on a page counts its row, or a gap, or is past the last row. -/
theorem counted_step {c : Cursor σ} {rows visited : List Row} {loads : List Load}
    (ht : c.step.Tracked) (ha : c.ahead = some rows)
    (hrow : rows ≠ [] → c.rowNumber = visited.length + g)
    (hend : rows = [] → c.token = none ∨ (c.rowNumber + 1 = visited.length + g ∧ 0 < g)) :
    Counted g ⟨c.step, loads, visited ++ c.step.row.toList⟩ := by
  cases rows with
  | nil =>
    have hr : c.step.row = none := by
      rw [step_row, ha]
      rfl
    have hv : visited ++ c.step.row.toList = visited := by
      rw [hr]
      exact List.append_nil visited
    rw [hv]
    refine ⟨ht, ?_, fun hne => absurd hr hne, fun _ _ => ⟨by rw [step_ahead, ha]; rfl, ?_⟩⟩
    · rcases hend rfl with hk | ⟨he, -⟩
      · exact .inl (pastLast_step ht.placed.isOpen ha hk)
      · exact .inr he
    · intro hk
      rcases hend rfl with hn | ⟨-, hg⟩
      · rw [step_token, hn] at hk
        cases hk
      · exact hg
  | cons r rest =>
    have hr : c.step.row = some r := by
      rw [step_row, ha]
      rfl
    refine ⟨ht, .inr ?_, fun _ => ?_, fun hn => ?_⟩
    · have hcount := hrow (List.cons_ne_nil r rest)
      rw [step_rowNumber, hr, List.length_append, Option.toList_some, List.length_singleton]
      omega
    · rw [hr, Option.toList_some, List.getLast?_append, List.getLast?_singleton, Option.some_or]
    · rw [hr] at hn
      cases hn

/-- A page that is needed leaves the cursor short of the end. -/
theorem Counted.number_of_needsPage (hc : h.Counted g) (hn : h.cursor.needsPage = true) :
    h.cursor.rowNumber = h.visited.length + g := by
  rcases hc.number with hp | he
  · exact absurd (hn.symm.trans hp.needsPage) (by decide)
  · exact he

theorem Counted.advance (hc : h.Counted g) :
    Counted (g + (h.cursor.isGap .advance).toNat) (h.step .advance) := by
  have hp : h.cursor.perform .advance = h.cursor.advance.2 := rfl
  have ht := hc.tracked.perform .advance
  rw [hp] at ht
  simp only [History.step, hp]
  rcases advance_cases hc.tracked.placed.isOpen with ⟨hn, ha, he⟩ | ⟨p, calls, ha, he⟩ |
    ⟨e, calls, -, ha, he⟩ <;> rw [he] at ht ⊢
  · -- on the loaded page a move without a row is past the last one
    rw [visits_of_ok he, isGap_of_no_arrival ha]
    obtain ⟨rows, hrows⟩ :=
      Option.ne_none_iff_exists'.mp (hc.tracked.placed.ahead_of_ready hn)
    refine counted_step ht hrows (fun hne => ?_) (fun hnil => .inl ?_)
    · rcases hc.number with hp | hcount
      · exact absurd (Option.some.inj (hrows.symm.trans hp.ahead)) hne
      · exact hcount
    · subst hnil
      simpa [needsPage, hrows] using hn
  · rw [visits_of_ok he]
    have hcount := hc.number_of_needsPage (needsPage_of_arrival ha)
    have hgap : h.cursor.isGap .advance = ((h.cursor.rowsOf p).isEmpty && p.next.isSome) := by
      rw [isGap, ha]
    refine counted_step ht (load_ahead _ p) (fun hne => ?_) (fun hnil => ?_)
    · have hrows : (h.cursor.rowsOf p).isEmpty = false := by simpa using hne
      rw [hgap, hrows]
      exact hcount
    · have hrows : (h.cursor.rowsOf p).isEmpty = true := by simpa using hnil
      cases hnext : p.next with
      | none => exact .inl hnext
      | some t =>
        rw [hgap, hrows, hnext]
        exact .inr ⟨congrArg (· + 1) hcount, Nat.succ_pos g⟩
  · rw [visits_of_error he, isGap_of_no_arrival ha, List.append_nil]
    exact hc.of_same ht rfl rfl rfl rfl

/-- An action that is not a move counts nothing. -/
theorem Counted.look (hc : h.Counted g) {a : Action} (ha : a ≠ .advance) {loads : List Load} :
    Counted g ⟨h.cursor.perform a, loads, h.visited⟩ := by
  have ht := hc.tracked.perform a
  rcases perform_cases hc.tracked.placed.isOpen a with ⟨-, he⟩ | ⟨p, hf, -, ⟨hadv, -⟩ | ⟨rfl, he⟩⟩ |
    ⟨-, ⟨hadv, -⟩ | ⟨n, -, -, he⟩ | ⟨-, he⟩ | ⟨-, he⟩⟩
  · rw [he] at ht ⊢
    exact hc.of_same ht rfl rfl rfl rfl
  · exact absurd hadv ha
  · -- without columns no page was loaded, so the cursor had not moved
    obtain ⟨hm, hn⟩ := Bool.and_eq_true_iff.mp hf
    have hz := hc.tracked.placed.unloaded
      (hc.tracked.placed.columns (Option.isNone_iff_eq_none.mp hm))
    rw [he] at ht ⊢
    exact ⟨ht, .inr (hc.number_of_needsPage hn), hc.current, fun _ hmoved => absurd hz hmoved⟩
  · exact absurd hadv ha
  all_goals
    rw [he] at ht ⊢
    exact hc.of_same ht rfl rfl rfl rfl

/-- Every action keeps the count. -/
theorem Counted.step (hc : h.Counted g) (a : Action) :
    Counted (g + (h.cursor.isGap a).toNat) (h.step a) := by
  by_cases ha : a = .advance
  · subst ha
    exact hc.advance
  · rw [isGap_of_ne ha, History.step, visits_of_ne ha, List.append_nil]
    exact hc.look ha

theorem Counted.run (hc : h.Counted g) (actions : List Action) :
    Counted (g + h.cursor.gaps actions) (h.run actions) := by
  induction actions generalizing g h with
  | nil => exact hc
  | cons a actions ih =>
    have hrest := ih (hc.step a)
    rw [Nat.add_assoc] at hrest
    exact hrest

/-! ## What the count tells -/

/-- The number that is shown is that of the rows visited and the gaps. -/
theorem Counted.shown_eq (hc : h.Counted g) (hn : h.cursor.shown ≠ 0) :
    h.cursor.shown = h.visited.length + g := by
  have hp := shown_ne_zero_iff.mp hn
  rw [shown_of_isRow hp]
  rcases hc.number with hlast | he
  · rw [hlast.place] at hp
    cases hp
  · exact he

theorem Counted.shown_of_row (hc : h.Counted g) (hr : h.cursor.row ≠ none) :
    h.cursor.shown ≠ 0 :=
  shown_ne_zero_iff.mpr (place_isRow_iff.mpr ⟨hc.tracked.moved hr, fun hn => hr hn.2⟩)

/-- Without a gap a number that is shown is that of a row. -/
theorem Counted.row_of_shown (hc : h.Counted 0) (hn : h.cursor.shown ≠ 0) :
    h.cursor.row ≠ none := by
  intro hr
  obtain ⟨hmoved, hx⟩ := place_isRow_iff.mp (shown_ne_zero_iff.mp hn)
  obtain ⟨ha, hk⟩ := hc.between hr hmoved
  have htoken : h.cursor.token = none := by
    rw [← Option.not_isSome_iff_eq_none]
    exact fun hs => Nat.lt_irrefl 0 (hk hs)
  exact hx ⟨exhausted_iff.mpr ⟨htoken, ha⟩, hr⟩

/-- The number is shown for a current row, and counts the rows visited, exactly if none is shown or
there was no gap. -/
theorem Counted.agrees_iff (hc : h.Counted g) :
    (h.cursor.shown ≠ 0 ↔ h.cursor.row ≠ none) ∧
        (h.cursor.shown ≠ 0 → h.cursor.shown = h.visited.length) ↔
      h.cursor.shown = 0 ∨ g = 0 := by
  by_cases hn : h.cursor.shown = 0
  · have hrow : ¬ h.cursor.row ≠ none := fun hr => hc.shown_of_row hr hn
    exact iff_of_true ⟨iff_of_false (fun h => h hn) hrow, fun h => absurd hn h⟩ (.inl hn)
  have hcount := hc.shown_eq hn
  constructor
  · rintro ⟨-, hlength⟩
    have := hlength hn
    exact .inr (by omega)
  · intro hor
    obtain rfl : g = 0 := hor.resolve_left hn
    exact ⟨iff_of_true hn (hc.row_of_shown hn), fun _ => hcount⟩

/-- The current row is at the place of the last row visited among those left of the loaded pages. -/
theorem Counted.getElem?_keptRows (hc : h.Counted g) (hs : h.Sound) {r : Row}
    (hr : h.cursor.row = some r) : (keptRows h.loads)[h.visited.length - 1]? = some r := by
  have hlast := hc.current (by rw [hr]; exact Option.some_ne_none r)
  rw [hr, List.getLast?_eq_getElem?] at hlast
  rw [← hs.rows]
  exact List.getElem?_append_left (List.getElem?_eq_some_iff.mp hlast).1 ▸ hlast

end History

namespace ResultSet

open Cursor (position_eq_place keptRows keptRows_eq_iff dataRows HeaderTwice)
open History (Counted counted_start sound_run run_cursor)

variable {s : ResultSet σ}

theorem position_eq (ho : s.cursor.closed = false) : s.position = .ok s.cursor.place :=
  (if_neg (Bool.eq_false_iff.mp ho)).trans (position_eq_place ho)

theorem row_eq (ho : s.cursor.closed = false) : s.row = .ok s.cursor.shown := by
  have hn : s.cursor.getRowNumber = .ok s.cursor.rowNumber := if_neg (Bool.eq_false_iff.mp ho)
  unfold row Cursor.shown
  rw [position_eq ho, hn]
  cases s.cursor.place <;> rfl

/-- **Row numbers.** While a result set is open, it shows a number exactly at the position of a row,
and then the number of rows visited plus the gaps. With a current row it shows a number, the row is
the last one visited, so it has that place among the rows left of the loaded pages, and its cells can
be read; without one no cell can be read. The number is shown for a current row, and is that of the
rows visited, exactly if none is shown or there was no gap. -/
theorem row_number_agrees_iff (calls : Calls σ) (settings : CursorSettings) (watching : Bool)
    (uses : List Use) :
    let new : ResultSet σ := { cursor := { calls, settings, watching } }
    let s := Use.performAll new uses
    let h := (History.start calls settings watching).run (Use.actionsAll new uses)
    let gaps := new.cursor.gaps (Use.actionsAll new uses)
    s.cursor.closed = false → h.cursor = s.cursor ∧
      ∃ p n, s.position = .ok p ∧ s.row = .ok n ∧
        (n ≠ 0 ↔ p.isRow = true) ∧
        (n ≠ 0 → n = h.visited.length + gaps) ∧
        (s.cursor.row = none → ∀ index, s.cell index = (.error s.cursor.noRow, s)) ∧
        (∀ r, s.cursor.row = some r → n ≠ 0 ∧
          (keptRows h.loads)[h.visited.length - 1]? = some r ∧
          (¬ HeaderTwice h.loads → (dataRows h.pages)[h.visited.length - 1]? = some r) ∧
          ∃ m, s.cursor.metadata = some m ∧
            ∀ index, 1 ≤ index → index ≤ m.columnCount → index ≤ r.size →
              (s.cell index).1 = .ok (r.value (index - 1))) ∧
        ((n ≠ 0 ↔ s.cursor.row ≠ none) ∧ (n ≠ 0 → n = h.visited.length) ↔ n = 0 ∨ gaps = 0) := by
  intro new s h gaps ho
  have hcursor : h.cursor = s.cursor :=
    (run_cursor _ _).trans (Use.performAll_eq ho).symm
  have hs : h.Sound := sound_run calls settings watching _
  have hc : h.Counted gaps := by
    have hrun := (counted_start calls settings watching).run (Use.actionsAll new uses)
    rwa [Nat.zero_add] at hrun
  have hrow : ∀ r, s.cursor.row = some r → s.cursor.row ≠ none := by
    intro r hr
    rw [hr]
    exact Option.some_ne_none r
  refine ⟨hcursor, s.cursor.place, s.cursor.shown, position_eq ho, row_eq ho,
    Cursor.shown_ne_zero_iff, hcursor ▸ hc.shown_eq, cell_of_row_none ho, ?_,
    hcursor ▸ hc.agrees_iff⟩
  intro r hr
  have ht : s.cursor.Tracked := hcursor ▸ hc.tracked
  have hkept := hc.getElem?_keptRows hs (hcursor ▸ hr)
  obtain ⟨m, hm⟩ := ht.columns_of_row (hrow r hr)
  refine ⟨hcursor ▸ hc.shown_of_row (hcursor ▸ hrow r hr), hkept, fun hheader => ?_, m, hm,
    fun index hi hcol hsize => ?_⟩
  · rw [History.pages, ← (keptRows_eq_iff hs.moves).mpr hheader]
    exact hkept
  · rw [cell_of_row ht hr hm hi hcol hsize]

/-- After an empty page the second row of the result is shown with the number 3. -/
theorem row_number_after_gap :
    let row (text : String) : Row := ⟨[some text]⟩
    let replies : List Service.Reply :=
      [⟨.page { next := some "t2", rows := [row "col1", row "a"] }, false⟩,
        ⟨.page { next := some "t3" }, false⟩, ⟨.page { rows := [row "b"] }, false⟩]
    let calls : Calls (List Service.Reply) :=
      { query := "Q1", service := .script, state := replies }
    let new : ResultSet (List Service.Reply) := { cursor := { calls } }
    let uses : List Use := [.operation .next, .operation .next, .action .advance]
    let s := Use.performAll new uses
    s.cursor.closed = false ∧ s.cursor.row = some (row "b") ∧
      new.cursor.gaps (Use.actionsAll new uses) = 1 ∧ ∃ n, s.row = .ok n ∧ n = 2 + 1 := by
  intro row replies calls new uses s
  have hs : s.cursor.closed = false ∧ s.cursor.row = some (row "b") ∧
      new.cursor.gaps (Use.actionsAll new uses) = 1 ∧
      ((History.start calls {} false).run (Use.actionsAll new uses)).visited.length = 2 := by
    decide +kernel
  obtain ⟨hopen, hrow, hgaps, hvisited⟩ := hs
  obtain ⟨-, p, n, -, hn, -, hcount, -, hcurrent, -⟩ :=
    row_number_agrees_iff calls {} false uses hopen
  refine ⟨hopen, hrow, hgaps, n, hn, ?_⟩
  rw [hcount (hcurrent _ hrow).1, hvisited, hgaps]

/-- After a first page of column names alone that names another, the result set is at the first row
with the number 1 and has no row; the row that comes next is the first one visited, with the
number 2. -/
theorem first_without_row :
    let row (text : String) : Row := ⟨[some text]⟩
    let replies : List Service.Reply :=
      [⟨.page { next := some "t2", rows := [row "col1"] }, false⟩,
        ⟨.page { rows := [row "a"] }, false⟩]
    let calls : Calls (List Service.Reply) :=
      { query := "Q1", service := .script, state := replies }
    let s := Use.performAll { cursor := { calls } } [.operation .next]
    let t := Use.performAll s [.operation .next]
    (s.cursor.closed = false ∧ s.cursor.row = none ∧ s.position = .ok .first ∧ s.row = .ok 1) ∧
      t.cursor.row = some (row "a") ∧ t.position = .ok .last ∧ t.row = .ok 2 := by
  intro row replies calls s t
  exact ⟨⟨rfl, rfl, rfl, rfl⟩, rfl, rfl, rfl⟩

end ResultSet

end ResultFlow
