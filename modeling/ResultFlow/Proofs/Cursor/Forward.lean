import ResultFlow.Proofs.Cursor.End
import ResultFlow.Proofs.Cursor.Uses

/-!
# Positions only move forward

An open cursor takes its positions in order. Only a move changes the position; a move that succeeds
leaves the first row and the last one behind, and past the last row it only counts.

1. `place` is the position of an open cursor, and `place_cases` says what each position tells about
   the cursor.
2. `Placed` is what keeps a loaded page from being loaded again; every action keeps it.
3. A move goes forward (`Placed.le_advance`), and no other action changes the position
   (`Placed.place_perform`), so every run goes forward (`Placed.le_performAll`).
4. Main statement: the same for every run of uses that leaves the result open.
-/

namespace ResultFlow

variable {σ : Type}

/-! ## The order of positions -/

namespace Position

/-- How far along a position is. -/
def rank : Position → Nat
  | beforeFirst => 0
  | first => 1
  | middle => 2
  | last => 3
  | afterLast => 4

instance : LE Position := ⟨fun p q => p.rank ≤ q.rank⟩

instance (p q : Position) : Decidable (p ≤ q) := inferInstanceAs (Decidable (p.rank ≤ q.rank))

theorem le_refl (p : Position) : p ≤ p := Nat.le_refl p.rank

theorem le_trans {p q r : Position} (hpq : p ≤ q) (hqr : q ≤ r) : p ≤ r := Nat.le_trans hpq hqr

theorem beforeFirst_le (p : Position) : beforeFirst ≤ p := Nat.zero_le p.rank

theorem le_afterLast (p : Position) : p ≤ afterLast := by
  cases p <;> decide

theorem eq_afterLast {p : Position} (h : afterLast ≤ p) : p = afterLast := by
  cases p with
  | afterLast => rfl
  | beforeFirst | first | middle | last => exact absurd h (by decide)

end Position

namespace Cursor

variable {c d : Cursor σ}

/-- The position of an open cursor. -/
def place (c : Cursor σ) : Position :=
  if c.rowNumber = 0 then .beforeFirst
  else if c.exhausted && c.row.isNone then .afterLast
  else if c.rowNumber = 1 then .first
  else if c.exhausted then .last
  else .middle

theorem position_eq_place (ho : c.closed = false) : c.position = .ok c.place := by
  unfold position place
  rw [if_neg (Bool.eq_false_iff.mp ho)]
  simp only [apply_ite Except.ok]

/-- What the position tells about the cursor. -/
theorem place_cases (c : Cursor σ) :
    (c.rowNumber = 0 ∧ c.place = .beforeFirst) ∨
    (c.rowNumber = 1 ∧ c.place = .first) ∨
    (2 ≤ c.rowNumber ∧ c.exhausted = false ∧ c.place = .middle) ∨
    (2 ≤ c.rowNumber ∧ c.exhausted = true ∧ c.place = .last) ∨
    (1 ≤ c.rowNumber ∧ c.exhausted = true ∧ c.row = none ∧ c.place = .afterLast) := by
  unfold place
  by_cases hz : c.rowNumber = 0
  · simp [hz]
  by_cases hend : (c.exhausted && c.row.isNone) = true
  · obtain ⟨hx, hr⟩ := Bool.and_eq_true_iff.mp hend
    have hr : c.row = none := by simpa using hr
    simp [hz, hx, hr]
    omega
  rw [if_neg hz, if_neg hend]
  by_cases hone : c.rowNumber = 1
  · simp [hone]
  have htwo : 2 ≤ c.rowNumber := by omega
  cases hx : c.exhausted with
  | true => simp [hone, htwo]
  | false => simp [hone, htwo]

theorem place_of_unmoved (h : c.rowNumber = 0) : c.place = .beforeFirst := if_pos h

theorem exhausted_iff : c.exhausted = true ↔ c.token = none ∧ c.ahead = some [] := by
  simp [exhausted]

/-- After two moves the first row is behind. -/
theorem middle_le_place (h : 2 ≤ c.rowNumber) : .middle ≤ c.place := by
  rcases place_cases c with ⟨hn, -⟩ | ⟨hn, -⟩ | ⟨-, -, he⟩ | ⟨-, -, he⟩ | ⟨-, -, -, he⟩
  · omega
  · omega
  · rw [he]
    decide
  · rw [he]
    decide
  · rw [he]
    decide

/-- With a row or a page left the last row is ahead. -/
theorem place_le_middle (h : c.exhausted = false) : c.place ≤ .middle := by
  rcases place_cases c with ⟨-, he⟩ | ⟨-, he⟩ | ⟨-, -, he⟩ | ⟨-, hx, -⟩ | ⟨-, hx, -⟩
  · rw [he]
    decide
  · rw [he]
    decide
  · rw [he]
    decide
  · exact absurd (h.symm.trans hx) Bool.false_ne_true
  · exact absurd (h.symm.trans hx) Bool.false_ne_true

/-- On the last row nothing is left. -/
theorem exhausted_of_last (hc : c.place = .last) : c.exhausted = true := by
  cases hx : c.exhausted with
  | true => rfl
  | false =>
    have hm := place_le_middle hx
    rw [hc] at hm
    exact absurd hm (by decide)

theorem PastLast.place (h : c.PastLast) : c.place = .afterLast :=
  Except.ok.inj ((position_eq_place h.isOpen).symm.trans h.position)

/-- Past the last row a step only counts. -/
theorem PastLast.step_eq (h : c.PastLast) : c.step = { c with rowNumber := c.rowNumber + 1 } := by
  have hrow : c.ahead.bind List.head? = c.row := by
    rw [h.ahead, h.row]
    rfl
  have hahead : c.ahead.map List.tail = c.ahead := by
    rw [h.ahead]
    rfl
  rw [Cursor.step, hrow, hahead]

/-- After the last row the cursor has moved past it. -/
theorem pastLast_of_place (ho : c.closed = false) (h : c.place = .afterLast) : c.PastLast := by
  rcases place_cases c with ⟨-, he⟩ | ⟨-, he⟩ | ⟨-, -, he⟩ | ⟨-, -, he⟩ | ⟨hn, hx, hr, -⟩
  · rw [h] at he
    cases he
  · rw [h] at he
    cases he
  · rw [h] at he
    cases he
  · rw [h] at he
    cases he
  · obtain ⟨ht, ha⟩ := exhausted_iff.mp hx
    exact ⟨ho, by omega, hr, ha, ht⟩

/-! ## What every action keeps -/

/-- An open cursor that has moved has loaded a page, and has columns if it has a page. -/
structure Placed (c : Cursor σ) : Prop where
  isOpen : c.closed = false
  unloaded : c.ahead = none → c.rowNumber = 0
  columns : c.metadata = none → c.ahead = none

theorem placed_start (calls : Calls σ) (settings : CursorSettings) (watching : Bool) :
    Placed { calls, settings, watching } := ⟨rfl, fun _ => rfl, fun _ => rfl⟩

namespace Placed

theorem load (h : c.Placed) (calls : Calls σ) (p : Page) : ({ c with calls }.load p).Placed where
  isOpen := h.isOpen
  unloaded ha := by cases ha
  columns hm := by simp at hm

theorem step (h : c.Placed) (ha : c.ahead ≠ none) : c.step.Placed where
  isOpen := h.isOpen
  unloaded hn := absurd (Option.map_eq_none_iff.mp hn) ha
  columns hm := absurd (h.columns hm) ha

/-- A move that needs no page has one. -/
theorem ahead_of_ready (h : c.Placed) (hn : c.needsPage = false) : c.ahead ≠ none := by
  intro ha
  simp [needsPage, ha, h.unloaded ha] at hn

theorem perform (h : c.Placed) (a : Action) : (c.perform a).Placed := by
  rcases perform_cases h.isOpen a with ⟨-, he⟩ | ⟨p, -, -, ⟨-, he⟩ | ⟨-, he⟩⟩ |
    ⟨hf, ⟨rfl, he⟩ | ⟨n, -, -, he⟩ | ⟨-, he⟩ | ⟨-, he⟩⟩ <;> rw [he]
  · exact ⟨h.isOpen, h.unloaded, h.columns⟩
  · exact (h.load _ p).step nofun
  · exact h.load _ p
  · exact h.step (h.ahead_of_ready hf)
  · exact ⟨h.isOpen, h.unloaded, h.columns⟩
  · exact ⟨h.isOpen, h.unloaded, h.columns⟩
  · exact h

theorem performAll (h : c.Placed) (actions : List Action) : (c.performAll actions).Placed := by
  induction actions generalizing c with
  | nil => exact h
  | cons a actions ih => exact ih (h.perform a)

/-! ## Moves -/

/-- A move that succeeds counts. -/
theorem rowNumber_of_advance (h : c.Placed) {b : Bool} (hd : c.advance = (.ok b, d)) :
    d.rowNumber = c.rowNumber + 1 := by
  rcases advance_cases h.isOpen with ⟨-, -, he⟩ | ⟨p, calls, -, he⟩ | ⟨e, calls, -, -, he⟩
  · rw [hd] at he
    cases he
    rfl
  · rw [hd] at he
    cases he
    rfl
  · rw [hd] at he
    cases he

/-- A move from the last row ends without a call. -/
theorem advance_of_exhausted (h : c.Placed) (hx : c.exhausted = true) :
    c.advance = (.ok false, c.step) ∧ c.step.PastLast := by
  obtain ⟨ht, ha⟩ := exhausted_iff.mp hx
  have hn : c.needsPage = false := by
    simp [needsPage, ha, ht]
  refine ⟨?_, pastLast_step h.isOpen ha ht⟩
  rw [advance_of_ensurePage h.isOpen (ensurePage_of_ready hn), step_row, ha]
  rfl

/-- A move that succeeds goes forward. -/
theorem le_of_advance (h : c.Placed) {b : Bool} (hd : c.advance = (.ok b, d)) :
    c.place ≤ d.place := by
  cases hx : c.exhausted with
  | true =>
    obtain ⟨ha, hp⟩ := h.advance_of_exhausted hx
    rw [ha] at hd
    cases hd
    rw [hp.place]
    exact Position.le_afterLast _
  | false =>
    by_cases hz : c.rowNumber = 0
    · rw [place_of_unmoved hz]
      exact Position.beforeFirst_le _
    · have hm : 2 ≤ d.rowNumber := by
        rw [h.rowNumber_of_advance hd]
        omega
      exact Position.le_trans (place_le_middle hx) (middle_le_place hm)

theorem first_of_advance (h : c.Placed) (hc : c.place = .first) {b : Bool}
    (hd : c.advance = (.ok b, d)) : d.place ≠ .first := by
  have hn := h.rowNumber_of_advance hd
  have hm : Position.middle ≤ d.place := by
    apply middle_le_place
    rcases place_cases c with ⟨-, he⟩ | ⟨hone, -⟩ | ⟨htwo, -⟩ | ⟨htwo, -⟩ | ⟨hone, -⟩
    · rw [hc] at he
      cases he
    all_goals omega
  intro he
  rw [he] at hm
  exact absurd hm (by decide)

/-! ## Runs -/

/-- An action that is not a move leaves the position. -/
theorem place_perform (h : c.Placed) {a : Action} (ha : a ≠ .advance) :
    (c.perform a).place = c.place := by
  rcases perform_cases h.isOpen a with ⟨-, he⟩ | ⟨p, hf, -, ⟨hadv, -⟩ | ⟨rfl, he⟩⟩ |
    ⟨-, ⟨hadv, -⟩ | ⟨n, -, -, he⟩ | ⟨-, he⟩ | ⟨-, he⟩⟩
  · rw [he]
    rfl
  · exact absurd hadv ha
  · -- without columns there was no page, so the cursor had not moved
    have hm : c.metadata = none :=
      Option.isNone_iff_eq_none.mp (Bool.and_eq_true_iff.mp hf).1
    have hz := h.unloaded (h.columns hm)
    rw [he, place_of_unmoved hz]
    exact place_of_unmoved hz
  · exact absurd hadv ha
  · rw [he]
    rfl
  · rw [he]
    rfl
  · rw [he]

theorem place_performAll (h : c.Placed) {actions : List Action} (ha : .advance ∉ actions) :
    (c.performAll actions).place = c.place := by
  induction actions generalizing c with
  | nil => rfl
  | cons a actions ih =>
    obtain ⟨hne, hrest⟩ := not_or.mp (mt List.mem_cons.mpr ha)
    rw [performAll_cons, ih (h.perform a) hrest, h.place_perform (Ne.symm hne)]

theorem le_perform (h : c.Placed) (a : Action) : c.place ≤ (c.perform a).place := by
  by_cases ha : a = .advance
  · subst ha
    unfold Cursor.perform
    rcases hd : c.advance with ⟨e | b, d⟩
    · rcases advance_cases h.isOpen with ⟨-, -, he⟩ | ⟨p, calls, -, he⟩ | ⟨e, calls, -, -, he⟩ <;>
        rw [hd] at he <;> cases he
      exact Position.le_refl _
    · exact h.le_of_advance hd
  · rw [h.place_perform ha]
    exact Position.le_refl _

theorem le_performAll (h : c.Placed) (actions : List Action) :
    c.place ≤ (c.performAll actions).place := by
  induction actions generalizing c with
  | nil => exact Position.le_refl _
  | cons a actions ih => exact Position.le_trans (h.le_perform a) (ih (h.perform a))

end Placed

end Cursor

namespace ResultSet

open Cursor (placed_start position_eq_place)

variable {s : ResultSet σ}

/-- Whether an operation moves the cursor. -/
def Operation.isMove {α : Type} : Operation α → Bool
  | next | relative _ => true
  | jump _ | position | isBeforeFirst | isFirst | isLast | isAfterLast | row | get _ _
  | getByLabel _ _ | wasNull | findColumn _ | metadata | fetchSize | setFetchSize _
  | fetchDirection | setFetchDirection _ | isClosed | close => false

/-- Whether a use moves the cursor. -/
def Use.isMove : Use → Bool
  | operation op => op.isMove
  | action a => a == .advance

theorem Use.advance_not_mem_actions {u : Use} (hu : u.isMove = false) (s : ResultSet σ) :
    .advance ∉ u.actions s := by
  cases u with
  | operation op =>
    cases op with
    | next | relative _ => cases hu
    | get read index =>
      simp only [actions, Operation.actions]
      split <;> simp
    | _ => simp [actions, Operation.actions]
  | action a =>
    intro hm
    rw [← List.mem_singleton.mp hm] at hu
    cases hu

/-- A result that is still open has gone forward. -/
theorem Use.placed_performAll (h : s.cursor.Placed) {later : List Use}
    (ho : (performAll s later).cursor.closed = false) :
    (performAll s later).cursor.Placed ∧ s.cursor.place ≤ (performAll s later).cursor.place := by
  obtain ⟨actions, he⟩ := performAll_cursor ho
  rw [he]
  exact ⟨h.performAll actions, h.le_performAll actions⟩

/-- **Positions only move forward.** While the result is open it has a position, and whatever is
done next, the position is the same or a later one. Only a move changes it. A move that succeeds
leaves the first row; a move from the last row reports the end, after it, without a request; and
from there on every move reports the end, and changes nothing but the row number. -/
theorem position_moves_forward (calls : Calls σ) (settings : CursorSettings) (watching : Bool)
    (uses : List Use) :
    let s := Use.performAll { cursor := { calls, settings, watching } } uses
    s.cursor.closed = false → ∃ p, s.cursor.position = .ok p ∧
      (∀ later, let t := Use.performAll s later
        t.cursor.closed = false → ∃ q, t.cursor.position = .ok q ∧ p ≤ q) ∧
      (∀ u : Use, u.isMove = false → u.closes = false → (u.perform s).cursor.position = .ok p) ∧
      (p = .first → ∀ b d, s.cursor.advance = (.ok b, d) → ∃ q, d.position = .ok q ∧ q ≠ .first) ∧
      (p = .last → ∃ d, s.cursor.advance = (.ok false, d) ∧ d.position = .ok .afterLast ∧
        d.calls = s.cursor.calls) ∧
      (p = .afterLast → ∀ later, let t := Use.performAll s later
        t.cursor.closed = false → t.cursor.position = .ok .afterLast ∧
          t.cursor.advance =
            (.ok false, { t.cursor with rowNumber := t.cursor.rowNumber + 1 })) := by
  intro s ho
  have h : s.cursor.Placed :=
    (Use.placed_performAll (placed_start calls settings watching) ho).1
  refine ⟨s.cursor.place, position_eq_place ho, ?_, ?_, ?_, ?_, ?_⟩
  · intro later t hl
    exact ⟨t.cursor.place, position_eq_place hl, (Use.placed_performAll h hl).2⟩
  · intro u hm hc
    rw [Use.perform_cursor hc, position_eq_place (h.performAll _).isOpen,
      h.place_performAll (Use.advance_not_mem_actions hm s)]
  · intro hp b d hd
    have hopen : d.closed = false := by
      have := (h.perform .advance).isOpen
      rwa [Cursor.perform, hd] at this
    exact ⟨d.place, position_eq_place hopen, h.first_of_advance hp hd⟩
  · intro hp
    obtain ⟨ha, hpast⟩ := h.advance_of_exhausted (Cursor.exhausted_of_last hp)
    exact ⟨_, ha, hpast.position, rfl⟩
  · intro hp later t hl
    have hle := (Use.placed_performAll h hl).2
    rw [hp] at hle
    have hpast := Cursor.pastLast_of_place hl (Position.eq_afterLast hle)
    exact ⟨hpast.position, hpast.advance.trans (by rw [hpast.step_eq])⟩

/-- Over a first page with one row, a fetch that fails, an empty page and a last page with one row,
the cursor comes to the last row; from there a move is past it. -/
theorem position_over_empty_page :
    let row (text : String) : Row := ⟨[some text]⟩
    let replies : List Service.Reply :=
      [⟨.page { next := some "t2", rows := [row "col1", row "a"] }, false⟩,
        ⟨.failure (.service "busy"), false⟩, ⟨.page { next := some "t3" }, false⟩,
        ⟨.page { rows := [row "b"] }, false⟩]
    let calls : Calls (List Service.Reply) :=
      { query := "Q1", service := .script, state := replies }
    let uses : List Use := [.operation .metadata, .operation .next, .operation .next,
      .action .advance, .operation (.relative 1)]
    let s := Use.performAll { cursor := { calls } } uses
    s.cursor.closed = false ∧ s.cursor.position = .ok .last ∧
      (∃ d, s.cursor.advance = (.ok false, d) ∧ d.position = .ok .afterLast ∧
        d.calls = s.cursor.calls) ∧
      (Use.perform s (.operation .metadata)).cursor.position = .ok .last := by
  intro row replies calls uses
  dsimp only
  have hopen : (Use.performAll { cursor := { calls } } uses).cursor.closed = false := by
    decide +kernel
  have hplace : (Use.performAll { cursor := { calls } } uses).cursor.place = .last := by
    decide +kernel
  have hlast := position_eq_place hopen
  rw [hplace] at hlast
  obtain ⟨p, hp, -, hsame, -, hmove, -⟩ := position_moves_forward calls {} false uses hopen
  obtain rfl : p = .last := Except.ok.inj (hp.symm.trans hlast)
  exact ⟨hopen, hlast, hmove rfl, hsame (.operation .metadata) rfl rfl⟩

end ResultSet

end ResultFlow
