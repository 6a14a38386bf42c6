import ResultFlow.Proofs.Cursor.Fetch
import ResultFlow.Proofs.Cursor.Rows

/-!
# The end of a result

A cursor is at the end of its result when it has moved past the last row of a page that names no
other. It stays there: every later move reports the end again and makes no call. A move that reports
the end need not have reached it: it looks at one page at most, and that page may have no row for
the cursor and still name another (`ended_iff_of_advance_false`).
-/

namespace ResultFlow

namespace Cursor

variable {σ : Type} {c d : Cursor σ}

/-- No row is ahead and no page is left, the position is after the last row, and whatever the
caller does next, every move reports the end again without a call. -/
def Ended (c : Cursor σ) : Prop :=
  c.ahead = some [] ∧ c.token = none ∧ c.position = .ok .afterLast ∧
    ∀ later, (c.performAll later).advance.1 = .ok false ∧
      (c.performAll later).advance.2.calls = (c.performAll later).calls

/-- The fields of a cursor that moved past its last row. -/
structure PastLast (c : Cursor σ) : Prop where
  isOpen : c.closed = false
  moved : c.rowNumber ≠ 0
  row : c.row = none
  ahead : c.ahead = some []
  token : c.token = none

namespace PastLast

theorem needsPage (h : c.PastLast) : c.needsPage = false := by
  simp only [Cursor.needsPage, h.ahead, h.token, Option.isSome_none, Bool.false_and]

theorem position (h : c.PastLast) : c.position = .ok .afterLast := by
  unfold Cursor.position exhausted
  rw [if_neg (Bool.eq_false_iff.mp h.isOpen), if_neg h.moved, h.token, h.ahead, h.row]
  rfl

theorem arrival (h : c.PastLast) : c.arrival = none := by
  rw [Cursor.arrival, if_neg (Bool.eq_false_iff.mp h.needsPage)]

/-- A further move only counts. -/
theorem advance (h : c.PastLast) : c.advance = (.ok false, c.step) := by
  rcases advance_cases h.isOpen with ⟨-, -, he⟩ | ⟨p, calls, ha, -⟩ | ⟨e, calls, hn, -, -⟩
  · rw [he, step_row, h.ahead]
    rfl
  · rw [h.arrival] at ha
    cases ha
  · rw [h.needsPage] at hn
    cases hn

theorem step (h : c.PastLast) : c.step.PastLast where
  isOpen := h.isOpen
  moved := Nat.succ_ne_zero _
  row := by rw [step_row, h.ahead]; rfl
  ahead := by rw [step_ahead, h.ahead]; rfl
  token := h.token

theorem perform (h : c.PastLast) (a : Action) : (c.perform a).PastLast := by
  have hf : c.fetches a = false := by
    cases a <;> simp [fetches, h.needsPage]
  rcases perform_cases h.isOpen a with ⟨⟨ht, -⟩, -⟩ | ⟨p, ht, -⟩ |
    ⟨-, ⟨-, he⟩ | ⟨n, -, -, he⟩ | ⟨-, he⟩ | ⟨-, he⟩⟩
  · exact absurd (hf.symm.trans ht) Bool.false_ne_true
  · exact absurd (hf.symm.trans ht) Bool.false_ne_true
  · rw [he]
    exact h.step
  · rw [he]
    exact ⟨h.isOpen, h.moved, h.row, h.ahead, h.token⟩
  · rw [he]
    exact ⟨h.isOpen, h.moved, h.row, h.ahead, h.token⟩
  · rw [he]
    exact h

theorem performAll (h : c.PastLast) (later : List Action) : (c.performAll later).PastLast := by
  induction later generalizing c with
  | nil => exact h
  | cons a later ih => exact ih (h.perform a)

theorem ended (h : c.PastLast) : c.Ended := by
  refine ⟨h.ahead, h.token, h.position, fun later => ?_⟩
  rw [(h.performAll later).advance]
  exact ⟨rfl, rfl⟩

end PastLast

/-! ## Moves that report the end -/

theorem ahead_of_row_none {rows : List Row} (ha : c.ahead = some rows) (hr : c.step.row = none) :
    c.ahead = some [] := by
  rw [step_row, ha, Option.bind_some, List.head?_eq_none_iff] at hr
  rw [ha, hr]

/-- A step that finds no row is past the last one if no page is left. -/
theorem pastLast_step (ho : c.closed = false) (ha : c.ahead = some []) (ht : c.token = none) :
    c.step.PastLast where
  isOpen := ho
  moved := Nat.succ_ne_zero _
  row := by rw [step_row, ha]; rfl
  ahead := by rw [step_ahead, ha]; rfl
  token := ht

/-- A move that reports the end has no row ahead and no current row. The end is reached exactly when
the move did not load a page that names another and has no row for it. -/
theorem ended_iff_of_advance_false (ho : c.closed = false)
    (hu : c.ahead = none → c.rowNumber = 0) (h : c.advance = (.ok false, d)) :
    d.ahead = some [] ∧ d.row = none ∧
      (d.Ended ↔ ¬ ∃ p, c.arrival = some p ∧ c.rowsOf p = [] ∧ p.next.isSome = true) := by
  rcases advance_cases ho with ⟨hn, ha, he⟩ | ⟨p, calls, ha, he⟩ | ⟨e, calls, -, -, he⟩ <;>
    rw [h, Prod.mk.injEq] at he <;> obtain ⟨hr, rfl⟩ := he
  · have hr : c.step.row = none := by simpa using hr
    have hc : c.ahead = some [] := by
      cases hc : c.ahead with
      | none => simp [needsPage, hc, hu hc] at hn
      | some rows => exact hc ▸ ahead_of_row_none hc hr
    have ht : c.token = none := by simpa [needsPage, hc] using hn
    have hp := pastLast_step ho hc ht
    refine ⟨hp.ahead, hp.row, ?_, fun _ => hp.ended⟩
    rintro - ⟨p, hp, -, -⟩
    rw [ha] at hp
    cases hp
  · have hr : ({ c with calls }.load p).step.row = none := by simpa using hr
    have hc := ahead_of_row_none (load_ahead _ _) hr
    have hl : c.rowsOf p = [] := Option.some.inj hc
    refine ⟨by rw [step_ahead, hc]; rfl, hr, ?_, fun hn => ?_⟩
    · rintro hd ⟨q, hq, -, ht⟩
      obtain rfl : p = q := Option.some.inj (ha ▸ hq)
      rw [show p.next = none from hd.2.1] at ht
      cases ht
    · have ht : p.next = none := by
        cases ht : p.next with
        | none => rfl
        | some t => exact absurd ⟨p, ha, hl, by rw [ht]; rfl⟩ hn
      exact (pastLast_step (c := { c with calls }.load p) ho hc ht).ended
  · cases hr

end Cursor

end ResultFlow
