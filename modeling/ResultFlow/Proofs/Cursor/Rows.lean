import ResultFlow.Proofs.Cursor.Run

/-!
# The rows of a run

Which rows of the loaded pages a run of a cursor visits or still has ahead. A page loses its first
row, as the column names, when it is loaded before the first move. That is the first page, and also
the second one when the first was loaded for its columns and has no other row: such a page is
*bare*, and nothing but a bare page leaves the cursor before its first move with another page to
load. Main statement: every row is visited or ahead, in order, exactly when no second page lost a
row that way.

1. `keptRows` is what is left of the loaded pages, `keptRows_append` what one more page adds to it.
2. `History.Sound` relates row number, rows ahead and loaded pages; every action keeps it.
3. `keptRows_eq_iff` compares what is left with the rows of the result.
-/

namespace ResultFlow

namespace Cursor

/-! ## What is left of the loaded pages -/

/-- The rows of a result: all rows of its pages but the first row of the first page. -/
def dataRows : List Page → List Row
  | [] => []
  | p :: rest => p.rows.drop 1 ++ rest.flatMap (·.rows)

/-- Whether a page was loaded for its columns and has no row beside the column names. -/
def Load.bare (l : Load) : Bool := l.forColumns && decide (l.page.rows.length ≤ 1)

/-- The rows left of pages, if the first of them is loaded before the first move or after it. -/
def keptFrom : Bool → List Load → List Row
  | _, [] => []
  | true, l :: rest => l.page.rows.drop 1 ++ keptFrom l.bare rest
  | false, l :: rest => l.page.rows ++ keptFrom false rest

/-- The rows left of the pages of a run. -/
def keptRows (loads : List Load) : List Row := keptFrom true loads

/-- The second page lost its first row: the page before it was bare. -/
def HeaderTwice (loads : List Load) : Prop :=
  ∃ l m rest, loads = l :: m :: rest ∧ l.bare = true ∧ m.page.rows ≠ []

theorem keptFrom_false (loads : List Load) :
    keptFrom false loads = loads.flatMap (·.page.rows) := by
  induction loads with
  | nil => rfl
  | cons l rest ih => rw [keptFrom, ih, List.flatMap_cons]

theorem keptFrom_append (unmoved : Bool) (loads : List Load) (l : Load) :
    keptFrom unmoved (loads ++ [l]) = keptFrom unmoved loads ++
      (if (unmoved && loads.all Load.bare) = true then l.page.rows.drop 1 else l.page.rows) := by
  induction loads generalizing unmoved with
  | nil => cases unmoved <;> simp [keptFrom]
  | cons m rest ih => cases unmoved <;> simp [keptFrom, ih]

/-- One more page loses a row exactly when only bare pages came before it. -/
theorem keptRows_append (loads : List Load) (l : Load) :
    keptRows (loads ++ [l]) = keptRows loads ++
      (if loads.all Load.bare = true then l.page.rows.drop 1 else l.page.rows) := by
  unfold keptRows
  rw [keptFrom_append, Bool.true_and]

theorem rows_of_bare {l : Load} (h : l.bare = true) : l.page.rows.drop 1 = [] := by
  simp only [Load.bare, Bool.and_eq_true, decide_eq_true_eq] at h
  exact List.drop_eq_nil_of_le h.2

/-- Nothing is lost but the header, unless a bare page comes before a page with rows. -/
theorem keptRows_eq_iff {loads : List Load} (h : ∀ l ∈ loads.tail, l.forColumns = false) :
    keptRows loads = dataRows (loads.map (·.page)) ↔ ¬ HeaderTwice loads := by
  unfold keptRows HeaderTwice
  rcases loads with _ | ⟨l, _ | ⟨m, rest⟩⟩
  · simp [keptFrom, dataRows]
  · simp [keptFrom, dataRows]
  · have hm : m.bare = false := by
      simp only [Load.bare, h m (List.mem_cons_self ..), Bool.false_and]
    simp only [dataRows, List.map_cons, List.flatMap_cons, List.flatMap_map, keptFrom,
      List.append_cancel_left_eq]
    cases hl : l.bare with
    | false => simp [keptFrom, keptFrom_false, hl]
    | true =>
      -- the two sides differ in length unless the second page is empty
      rw [keptFrom, hm, keptFrom_false, List.append_cancel_right_eq]
      constructor
      · rintro he ⟨_, _, _, ⟨⟩, -, hr⟩
        have hlen := congrArg List.length he
        have := List.length_pos_iff.mpr hr
        rw [List.length_drop] at hlen
        omega
      · intro hn
        have hr : m.page.rows = [] :=
          Decidable.byContradiction fun hr => hn ⟨l, m, rest, rfl, hl, hr⟩
        rw [hr, List.drop_nil]

end Cursor

/-! ## What every action keeps -/

namespace History

open Cursor

variable {σ : Type} {h : History σ}

/-- The rows visited and ahead are those left of the loaded pages, and when another page is needed
the cursor is before its first move exactly if only bare pages came. -/
structure Sound (h : History σ) : Prop where
  isOpen : h.cursor.closed = false
  rows : h.visited ++ h.cursor.queued = keptRows h.loads
  unloaded : h.cursor.ahead = none → h.cursor.rowNumber = 0 ∧ h.loads = []
  bare : h.loads.all Load.bare = true → h.cursor.queued = []
  unmoved : h.cursor.needsPage = true → (h.cursor.rowNumber = 0 ↔ h.loads.all Load.bare = true)
  columns : h.cursor.metadata = none → h.cursor.ahead = none
  moves : ∀ l ∈ h.loads.tail, l.forColumns = false

theorem sound_start (calls : Calls σ) (settings : CursorSettings) (watching : Bool) :
    (start calls settings watching).Sound where
  isOpen := rfl
  rows := rfl
  unloaded _ := ⟨rfl, rfl⟩
  bare _ := rfl
  unmoved _ := ⟨fun _ => rfl, fun _ => rfl⟩
  columns _ := rfl
  moves _ hl := by cases hl

/-- A change that touches neither the rows nor the token keeps everything. -/
theorem Sound.of_same (hs : h.Sound) {c : Cursor σ} (hc : c.closed = h.cursor.closed)
    (ha : c.ahead = h.cursor.ahead) (hn : c.rowNumber = h.cursor.rowNumber)
    (ht : c.token = h.cursor.token) (hm : c.metadata = h.cursor.metadata) :
    Sound { h with cursor := c } where
  isOpen := hc.trans hs.isOpen
  rows := by simpa only [queued, ha] using hs.rows
  unloaded := by simpa only [ha, hn] using hs.unloaded
  bare := by simpa only [queued, ha] using hs.bare
  unmoved := by simpa only [needsPage, ha, hn, ht] using hs.unmoved
  columns := by simpa only [hm, ha] using hs.columns
  moves := hs.moves

/-- What a page that arrives leaves of its rows. -/
theorem Sound.rowsOf_eq (hs : h.Sound) {p : Page} (ha : h.cursor.arrival = some p) :
    h.cursor.rowsOf p =
      if h.loads.all Load.bare = true then p.rows.drop 1 else p.rows := by
  simp only [rowsOf, hs.unmoved (needsPage_of_arrival ha)]

/-- At a load no row is ahead. -/
theorem Sound.queued_of_arrival {p : Page} (ha : h.cursor.arrival = some p) :
    h.cursor.queued = [] := by
  rcases needsPage_cases (needsPage_of_arrival ha) with ⟨he, -⟩ | ⟨he, -⟩ <;>
    rw [queued, he] <;> rfl

/-- A load keeps the rows, whatever it is for. -/
theorem Sound.rows_load (hs : h.Sound) {p : Page} (ha : h.cursor.arrival = some p)
    (forColumns : Bool) :
    h.visited ++ h.cursor.rowsOf p = keptRows (h.loads ++ [⟨p, forColumns⟩]) := by
  rw [keptRows_append, ← hs.rows, Sound.queued_of_arrival ha, List.append_nil, hs.rowsOf_eq ha]

theorem Sound.moves_append (hs : h.Sound) {l : Load}
    (hl : h.loads = [] ∨ l.forColumns = false) :
    ∀ m ∈ (h.loads ++ [l]).tail, m.forColumns = false := by
  intro m hm
  rcases hl with hl | hl
  · rw [hl] at hm
    cases hm
  · by_cases he : h.loads = []
    · rw [he] at hm
      cases hm
    · rw [List.tail_append_of_ne_nil he, List.mem_append, List.mem_singleton] at hm
      rcases hm with hm | rfl
      · exact hs.moves m hm
      · exact hl

/-- A step that needs no page keeps everything. -/
theorem Sound.step_ready (hs : h.Sound) (hn : h.cursor.needsPage = false) :
    Sound { h with
      cursor := h.cursor.step
      visited := h.visited ++ h.cursor.step.row.toList } where
  isOpen := hs.isOpen
  rows := by
    show h.visited ++ h.cursor.step.row.toList ++ h.cursor.step.queued = keptRows h.loads
    rw [List.append_assoc, row_append_queued, hs.rows]
  unloaded he := by
    have he : h.cursor.ahead = none := Option.map_eq_none_iff.mp he
    have hz := (hs.unloaded he).1
    simp [needsPage, he, hz] at hn
  bare hb := by
    have hq := row_append_queued h.cursor
    rw [hs.bare hb] at hq
    exact (List.append_eq_nil_iff.mp hq).2
  unmoved hp := by
    -- a page that was not needed before is needed only once rows ahead are used up
    refine ⟨fun hz => absurd hz (Nat.succ_ne_zero _), fun hb => ?_⟩
    have hq := hs.bare hb
    unfold queued at hq
    unfold needsPage at hn hp
    cases he : h.cursor.ahead with
    | none => simp [he, (hs.unloaded he).1] at hn
    | some rows =>
      simp only [he, Option.getD_some] at hq
      subst hq
      simp [he] at hn hp
      simp [hn] at hp
  columns hm := by
    show h.cursor.ahead.map List.tail = none
    rw [hs.columns hm]
    rfl
  moves := hs.moves

/-- A step on a page that is loaded for it keeps everything. -/
theorem Sound.step_loaded (hs : h.Sound) {p : Page} (ha : h.cursor.arrival = some p)
    (calls : Calls σ) :
    Sound {
      cursor := ({ h.cursor with calls }.load p).step
      loads := h.loads ++ [⟨p, false⟩]
      visited := h.visited ++ ({ h.cursor with calls }.load p).step.row.toList : History σ } where
  isOpen := hs.isOpen
  rows := by
    show h.visited ++ ({ h.cursor with calls }.load p).step.row.toList ++
      ({ h.cursor with calls }.load p).step.queued = _
    rw [List.append_assoc, row_append_queued, queued_of_ahead (load_ahead _ _), rowsOf_calls,
      hs.rows_load ha]
  unloaded he := by simp at he
  bare hb := by simp [Load.bare] at hb
  unmoved _ := by simp [Load.bare]
  columns hm := by simp at hm
  moves := hs.moves_append (.inr rfl)

/-- A page that is loaded for its columns is the first, and keeps everything. -/
theorem Sound.load_columns (hs : h.Sound) {p : Page} (hm : h.cursor.metadata = none)
    (ha : h.cursor.arrival = some p) (calls : Calls σ) :
    Sound { h with
      cursor := { h.cursor with calls }.load p
      loads := h.loads ++ [⟨p, true⟩] } := by
  obtain ⟨hz, hl⟩ := hs.unloaded (hs.columns hm)
  have hr : h.cursor.rowsOf p = p.rows.drop 1 := by simp only [rowsOf, hz, if_true]
  refine ⟨hs.isOpen, ?_, ?_, ?_, ?_, ?_, hs.moves_append (.inl hl)⟩
  · show h.visited ++ ({ h.cursor with calls }.load p).queued = _
    rw [queued_of_ahead (load_ahead _ _), rowsOf_calls, hs.rows_load ha]
  · intro he
    cases he
  · intro hb
    simp only [hl, List.nil_append, List.all_cons, List.all_nil, Bool.and_true] at hb
    rw [queued_of_ahead (load_ahead _ _), rowsOf_calls, hr]
    exact rows_of_bare hb
  · intro hp
    have hlen : p.rows.length ≤ 1 := by
      rcases needsPage_cases hp with ⟨he, -⟩ | ⟨he, -⟩
      · cases he
      · have he : h.cursor.rowsOf p = [] := Option.some.inj he
        rwa [hr, List.drop_eq_nil_iff] at he
    exact ⟨fun _ => by simp [hl, Load.bare, hlen], fun _ => hz⟩
  · intro he
    simp at he

/-- Every action keeps the account of the rows. -/
theorem Sound.step (hs : h.Sound) (a : Action) : (h.step a).Sound := by
  cases a with
  | advance =>
    simp only [History.step, perform, Cursor.loads]
    rcases advance_cases hs.isOpen with ⟨hn, ha, he⟩ | ⟨p, calls, ha, he⟩ | ⟨e, calls, -, ha, he⟩
    · rw [visits_of_ok he, he, ha, Option.map_none, Option.toList_none, List.append_nil]
      exact hs.step_ready hn
    · rw [visits_of_ok he, he, ha]
      exact hs.step_loaded ha calls
    · rw [visits_of_error he, he, ha, Option.map_none, Option.toList_none, List.append_nil,
        List.append_nil]
      exact hs.of_same rfl rfl rfl rfl rfl
  | metadata =>
    simp only [History.step, perform, Cursor.loads, visits, List.append_nil]
    rcases getMetadata_cases hs.isOpen with ⟨m, hm, he⟩ | ⟨hm, ha, -, he⟩ | ⟨p, calls, hm, ha, he⟩ |
      ⟨e, calls, hm, -, ha, he⟩
    · rw [he, if_neg (by simp [hm]), List.append_nil]
      exact hs
    · rw [he, ha, Option.map_none, Option.toList_none, ite_self, List.append_nil]
      exact hs
    · rw [he, ha, if_pos (by simp [hm])]
      exact hs.load_columns hm ha calls
    · rw [he, ha, Option.map_none, Option.toList_none, ite_self, List.append_nil]
      exact hs.of_same rfl rfl rfl rfl rfl
  | setFetchSize size =>
    simp only [History.step, perform, Cursor.loads, visits, List.append_nil]
    rcases setFetchSize_cases hs.isOpen size with ⟨e, he⟩ | ⟨-, he⟩ <;> rw [he]
    · exact hs
    · exact hs.of_same rfl rfl rfl rfl rfl
  | interrupt =>
    simp only [History.step, perform, Cursor.loads, visits, List.append_nil]
    exact hs.of_same rfl rfl rfl rfl rfl
  | cell _ | position | rowNumber =>
    simp only [History.step, perform, Cursor.loads, visits, List.append_nil]
    exact hs

theorem sound_run (calls : Calls σ) (settings : CursorSettings) (watching : Bool)
    (actions : List Action) : ((start calls settings watching).run actions).Sound :=
  run_induction (P := Sound) (fun _ a hs => hs.step a) (sound_start calls settings watching) actions

/-- **The rows of a run.** The rows visited, followed by the rows still ahead, are what is left of
the loaded pages; and they are all rows of the result loaded so far, in order, exactly when the
second page did not lose a row to a first page that was loaded for its columns and had no row. -/
theorem visited_append_queued (calls : Calls σ) (settings : CursorSettings) (watching : Bool)
    (actions : List Action) :
    let h := (start calls settings watching).run actions
    h.visited ++ h.cursor.queued = keptRows h.loads ∧
      (h.visited ++ h.cursor.queued = dataRows h.pages ↔ ¬ HeaderTwice h.loads) := by
  intro h
  have hs : h.Sound := sound_run calls settings watching actions
  refine ⟨hs.rows, ?_⟩
  rw [hs.rows]
  exact keptRows_eq_iff hs.moves

/-- Looking at the columns first, over a first page of column names alone, loses the row `a`. -/
theorem lost_after_metadata :
    let row (text : String) : Row := ⟨[some text]⟩
    let pages : List Page :=
      [{ next := some "t2", rows := [row "col1"], columns := [.ofName "col1" "varchar"] },
        { rows := [row "a", row "b"], columns := [.ofName "col1" "varchar"] }]
    let calls : Calls (List Service.Reply) :=
      { query := "Q1", service := .script, state := pages.map (⟨.page ·, false⟩) }
    let h := (start calls {} false).run [.metadata, .advance]
    h.pages = pages ∧ dataRows h.pages = [row "a", row "b"] ∧
      h.visited ++ h.cursor.queued = [row "b"] := by
  decide

end History

end ResultFlow
