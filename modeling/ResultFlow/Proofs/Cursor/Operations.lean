import ResultFlow.Proofs.Cursor.Paging

/-!
# Page boundaries

What a result set answers over a table does not show how the table was cut into pages. Two result
sets over one table are alike when the same moves were made on both and their settings agree; every
operation gives the same answer on both and leaves them alike (`Operation.agree`). So a run of
operations has the same answers over pages as over the table in one page.
-/

namespace ResultFlow

variable {σ τ α β γ : Type}

/-- Two outcomes have the same answer, and what is left is related after the moves that the answer
tells of. -/
structure SameAnswer (R : Nat → β → γ → Prop) (k : Nat) (moves : Except Error α → Nat)
    (x : Except Error α × β) (y : Except Error α × γ) : Prop where
  answer : x.1 = y.1
  left : R (k + moves x.1) x.2 y.2

theorem SameAnswer.cases {R : Nat → β → γ → Prop} {k : Nat} {moves : Except Error α → Nat}
    {x : Except Error α × β} {y : Except Error α × γ} (h : SameAnswer R k moves x y) :
    (∃ e b c, x = (.error e, b) ∧ y = (.error e, c) ∧ R (k + moves (.error e)) b c) ∨
    (∃ a b c, x = (.ok a, b) ∧ y = (.ok a, c) ∧ R (k + moves (.ok a)) b c) := by
  obtain ⟨ha, hl⟩ := h
  rcases x with ⟨e | a, b⟩ <;> rcases y with ⟨_, c⟩ <;> cases ha
  · exact .inl ⟨e, b, c, rfl, rfl, hl⟩
  · exact .inr ⟨a, b, c, rfl, rfl, hl⟩

/-- The moves that succeeded, if `n` of them have one answer. -/
def movesOf (n : Nat) : Except Error Bool → Nat
  | .ok _ => n
  | .error _ => 0

/-! ## Cursors that are alike -/

namespace Cursor

/-- On both cursors `k` moves were made over the table, or both are closed. -/
structure Alike (t : Table) (k : Nat) (c : Cursor σ) (d : Cursor τ) : Prop where
  settings : c.settings = d.settings
  state : (c.closed = true ∧ d.closed = true) ∨ (k = 0 ∧ c.Fresh t ∧ d.Fresh t) ∨
    (c.Ready t k ∧ d.Ready t k)

variable {c : Cursor σ} {d : Cursor τ} {t : Table} {k : Nat}

theorem close_eq (c : Cursor σ) : c.close.closed = true ∧ c.close.settings = c.settings := by
  unfold close
  split
  · exact ⟨‹_›, rfl⟩
  · exact ⟨rfl, rfl⟩

namespace Alike

theorem closed (h : Alike t k c d) : c.closed = d.closed := by
  rcases h.state with ⟨hc, hd⟩ | ⟨-, hc, hd⟩ | ⟨hc, hd⟩
  · rw [hc, hd]
  · rw [hc.isOpen, hd.isOpen]
  · rw [hc.isOpen, hd.isOpen]

/-- Open cursors refuse to load their first page, or go on. -/
theorem cases_of_open (h : Alike t k c d) (ho : c.closed = false) :
    (∃ e, k = 0 ∧ c.Fresh t ∧ d.Fresh t ∧ checkFetchSize c.settings.fetchSize = .error e ∧
      checkFetchSize d.settings.fetchSize = .error e) ∨
    (c.Ready t k ∧ d.Ready t k) := by
  rcases h.state with ⟨hc, -⟩ | ⟨rfl, hc, hd⟩ | hr
  · exact absurd (ho.symm.trans hc) Bool.false_ne_true
  · rcases checkFetchSize_cases c.settings.fetchSize with ⟨e, he⟩ | ⟨-, hs⟩
    · exact .inl ⟨e, rfl, hc, hd, he, h.settings ▸ he⟩
    · exact .inr ⟨.inr ⟨rfl, hc, hs⟩, .inr ⟨rfl, hd, h.settings ▸ hs⟩⟩
  · exact .inr hr

theorem row (h : Alike t k c d) (ho : c.closed = false) :
    c.row = (if k = 0 then none else t.rows[k - 1]?) ∧ d.row = c.row := by
  rcases h.cases_of_open ho with ⟨e, rfl, hc, hd, -⟩ | ⟨hc, hd⟩
  · exact ⟨hc.row, hd.row.trans hc.row.symm⟩
  · exact ⟨hc.row, hd.row.trans hc.row.symm⟩

theorem position (h : Alike t k c d) (ho : c.closed = false) :
    c.position = .ok (.after t.rows.length k) ∧ d.position = c.position := by
  rcases h.cases_of_open ho with ⟨e, rfl, hc, hd, -⟩ | ⟨hc, hd⟩
  · exact ⟨hc.position, hd.position.trans hc.position.symm⟩
  · exact ⟨hc.position, hd.position.trans hc.position.symm⟩

theorem rowNumber (h : Alike t k c d) (ho : c.closed = false) :
    c.getRowNumber = .ok k ∧ d.getRowNumber = c.getRowNumber := by
  have hd := h.closed ▸ ho
  unfold getRowNumber
  rw [if_neg (Bool.eq_false_iff.mp ho), if_neg (Bool.eq_false_iff.mp hd)]
  rcases h.cases_of_open ho with ⟨e, rfl, hc, hd, -⟩ | ⟨hc, hd⟩
  · rw [hc.moves, hd.moves]
    exact ⟨rfl, rfl⟩
  · rw [hc.moves, hd.moves]
    exact ⟨rfl, rfl⟩

/-- A move is refused on both cursors, or made on both. -/
theorem advance (h : Alike t k c d) (ho : c.closed = false) :
    SameAnswer (Alike t) k (movesOf 1) c.advance d.advance := by
  rcases h.cases_of_open ho with ⟨e, -, hc, hd, hce, hde⟩ | ⟨hc, hd⟩
  · rw [hc.advance_refused hce, hd.advance_refused hde]
    exact ⟨rfl, h⟩
  · obtain ⟨c', hc', hcr, hcs⟩ := hc.advance
    obtain ⟨d', hd', hdr, hds⟩ := hd.advance
    rw [hc', hd']
    exact ⟨rfl, (hcs.trans h.settings).trans hds.symm, .inr (.inr ⟨hcr, hdr⟩)⟩

/-- The columns are refused on both cursors, or those of the table. -/
theorem getMetadata (h : Alike t k c d) (ho : c.closed = false) :
    (∃ e, c.getMetadata = (.error e, c) ∧ d.getMetadata = (.error e, d)) ∨
    (∃ c' d', c.getMetadata = (.ok ⟨t.columns⟩, c') ∧ d.getMetadata = (.ok ⟨t.columns⟩, d') ∧
      Alike t k c' d' ∧ c'.closed = false) := by
  rcases h.cases_of_open ho with ⟨e, -, hc, hd, hce, hde⟩ | ⟨hc, hd⟩
  · exact .inl ⟨e, hc.getMetadata_refused hce, hd.getMetadata_refused hde⟩
  · obtain ⟨c', hc', hcr, hcs⟩ := hc.getMetadata
    obtain ⟨d', hd', hdr, hds⟩ := hd.getMetadata
    exact .inr ⟨c', d', hc', hd', ⟨(hcs.trans h.settings).trans hds.symm, .inr (.inr ⟨hcr, hdr⟩)⟩,
      hcr.isOpen⟩

theorem setFetchSize (h : Alike t k c d) (ho : c.closed = false) (size : Nat) :
    SameAnswer (Alike t) k (fun _ => 0) (c.setFetchSize size) (d.setFetchSize size) := by
  have hdo := h.closed ▸ ho
  unfold Cursor.setFetchSize
  rw [if_neg (Bool.eq_false_iff.mp ho), if_neg (Bool.eq_false_iff.mp hdo)]
  rcases checkFetchSize_cases size with ⟨e, he⟩ | ⟨he, hs⟩ <;> rw [he]
  · exact ⟨rfl, h⟩
  · refine ⟨rfl, by rw [h.settings], ?_⟩
    rcases h.state with ⟨hc, -⟩ | ⟨hk, hc, hd⟩ | ⟨hc, hd⟩
    · exact absurd (ho.symm.trans hc) Bool.false_ne_true
    · exact .inr (.inl ⟨hk, hc.of_settings _, hd.of_settings _⟩)
    · exact .inr (.inr ⟨hc.of_settings hs, hd.of_settings hs⟩)

theorem close (h : Alike t k c d) : Alike t k c.close d.close := by
  refine ⟨?_, .inl ⟨c.close_eq.1, d.close_eq.1⟩⟩
  rw [c.close_eq.2, d.close_eq.2, h.settings]

/-- A cell of the current row. -/
theorem cell (h : Alike t k c d) (ho : c.closed = false) (index : Nat) :
    c.cell index = d.cell index := by
  unfold Cursor.cell
  rw [← h.closed, (h.row ho).2]

end Alike

end Cursor

/-! ## Result sets that are alike -/

namespace ResultSet

/-- Their cursors are, and both tell the same of the last cell. -/
structure Alike (t : Table) (k : Nat) (s : ResultSet σ) (u : ResultSet τ) : Prop where
  cursor : Cursor.Alike t k s.cursor u.cursor
  null : s.null = u.null

variable {s : ResultSet σ} {u : ResultSet τ} {t : Table} {k : Nat}

/-- Moves that go on find a row at the end as long as there are that many. -/
theorem advanceTimes_of_ready {c : Cursor σ} (h : c.Ready t k) (moved : Bool) (n : Nat) :
    ∃ d, advanceTimes moved n c =
        (.ok (if n = 0 then moved else decide (k + n ≤ t.rows.length)), d) ∧
      d.Ready t (k + n) ∧ d.settings = c.settings := by
  induction n generalizing c k moved with
  | zero => exact ⟨c, rfl, h, rfl⟩
  | succ n ih =>
    obtain ⟨d, hd, hdr, hds⟩ := h.advance
    obtain ⟨d', hd', hdr', hds'⟩ := ih hdr (decide (k < t.rows.length))
    refine ⟨d', ?_, Nat.add_right_comm k n 1 ▸ hdr', hds'.trans hds⟩
    unfold advanceTimes
    simp only [hd, hd', Nat.succ_ne_zero, if_false]
    congr 2
    split
    · rename_i hn
      rw [hn]
      rfl
    · rw [Nat.add_right_comm]
      rfl

namespace Alike

theorem onCursor (h : Alike t k s u) {moves : Except Error α → Nat}
    (hm : moves (.error .resultSetClosed) = 0) {f : Cursor σ → Except Error α × Cursor σ}
    {g : Cursor τ → Except Error α × Cursor τ}
    (hfg : s.cursor.closed = false →
      SameAnswer (Cursor.Alike t) k moves (f s.cursor) (g u.cursor)) :
    SameAnswer (Alike t) k moves (s.onCursor f) (u.onCursor g) := by
  have hc := h.cursor.closed
  unfold ResultSet.onCursor
  rw [← hc]
  cases ho : s.cursor.closed with
  | true =>
    refine ⟨rfl, ?_⟩
    show Alike t (k + moves (.error .resultSetClosed)) s u
    rw [hm]
    exact h
  | false => exact ⟨(hfg ho).answer, (hfg ho).left, h.null⟩

/-- What is only looked at. -/
theorem ifOpen (h : Alike t k s u) {v w : Except Error α}
    (hvw : s.cursor.closed = false → v = w) : s.ifOpen v = u.ifOpen w := by
  unfold ResultSet.ifOpen
  rw [← h.cursor.closed]
  cases ho : s.cursor.closed with
  | true => rfl
  | false => exact hvw ho

theorem position (h : Alike t k s u) : s.position = u.position :=
  h.ifOpen fun ho => (h.cursor.position ho).2.symm

theorem row (h : Alike t k s u) : s.row = u.row := by
  unfold ResultSet.row
  rw [← h.position]
  cases ho : s.cursor.closed with
  | true =>
    have hp : s.position = .error .resultSetClosed := by
      unfold ResultSet.position ResultSet.ifOpen
      rw [if_pos ho]
    rw [hp]
  | false => rw [(h.cursor.rowNumber ho).2]

theorem next (h : Alike t k s u) : SameAnswer (Alike t) k (movesOf 1) s.next u.next :=
  h.onCursor rfl h.cursor.advance

/-- Many moves are refused at the first, or all are made. -/
theorem advanceTimes {c : Cursor σ} {d : Cursor τ} (h : Cursor.Alike t k c d)
    (ho : c.closed = false) (moved : Bool) (n : Nat) :
    SameAnswer (Cursor.Alike t) k (movesOf n) (advanceTimes moved n c)
      (advanceTimes moved n d) := by
  -- only the first page can be refused, so a failure leaves no move made
  rcases h.cases_of_open ho with ⟨e, -, hc, hd, hce, hde⟩ | ⟨hc, hd⟩
  · cases n with
    | zero => exact ⟨rfl, h⟩
    | succ n =>
      unfold ResultSet.advanceTimes
      rw [hc.advance_refused hce, hd.advance_refused hde]
      exact ⟨rfl, h⟩
  · obtain ⟨c', hc', hcr, hcs⟩ := advanceTimes_of_ready hc moved n
    obtain ⟨d', hd', hdr, hds⟩ := advanceTimes_of_ready hd moved n
    rw [hc', hd']
    exact ⟨rfl, (hcs.trans h.settings).trans hds.symm, .inr (.inr ⟨hcr, hdr⟩)⟩

theorem relative (h : Alike t k s u) (rows : Int) :
    SameAnswer (Alike t) k (movesOf rows.toNat) (s.relative rows) (u.relative rows) := by
  refine h.onCursor rfl fun ho => ?_
  split
  · exact ⟨rfl, h.cursor⟩
  · exact advanceTimes h.cursor ho false rows.toNat

theorem setFetchSize (h : Alike t k s u) (size : Nat) :
    SameAnswer (Alike t) k (fun _ => 0) (s.setFetchSize size) (u.setFetchSize size) :=
  h.onCursor rfl fun ho => h.cursor.setFetchSize ho size

theorem metadata (h : Alike t k s u) :
    SameAnswer (Alike t) k (fun _ => 0) s.metadata u.metadata := by
  refine h.onCursor rfl fun ho => ?_
  rcases h.cursor.getMetadata ho with ⟨e, hs, hu⟩ | ⟨c, d, hs, hu, hcd, -⟩ <;> rw [hs, hu]
  · exact ⟨rfl, h.cursor⟩
  · exact ⟨rfl, hcd⟩

theorem findColumn (h : Alike t k s u) (label : String) :
    SameAnswer (Alike t) k (fun _ => 0) (s.findColumn label) (u.findColumn label) := by
  refine h.onCursor rfl fun ho => ?_
  rcases h.cursor.getMetadata ho with ⟨e, hs, hu⟩ | ⟨c, d, hs, hu, hcd, -⟩ <;>
    simp only [hs, hu]
  · exact ⟨rfl, h.cursor⟩
  · split
    · exact ⟨rfl, hcd⟩
    · exact ⟨rfl, hcd⟩

theorem checkColumn {c : Cursor σ} {d : Cursor τ} (h : Cursor.Alike t k c d)
    (ho : c.closed = false) (index : Nat) :
    SameAnswer (fun k c d => Cursor.Alike t k c d ∧ c.closed = false) k (fun _ => 0)
      (checkColumn c index) (checkColumn d index) := by
  unfold ResultSet.checkColumn
  split
  · exact ⟨rfl, h, ho⟩
  · rcases h.getMetadata ho with ⟨e, hc, hd⟩ | ⟨c', d', hc, hd, hcd, ho'⟩ <;> simp only [hc, hd]
    · exact ⟨rfl, h, ho⟩
    · split
      · exact ⟨rfl, hcd, ho'⟩
      · exact ⟨rfl, hcd, ho'⟩

theorem checkRow {c : Cursor σ} {d : Cursor τ} (h : Cursor.Alike t k c d)
    (ho : c.closed = false) : checkRow d = checkRow c := by
  unfold ResultSet.checkRow
  rw [(h.position ho).2, (h.row ho).2]

theorem cell (h : Alike t k s u) (index : Nat) :
    SameAnswer (Alike t) k (fun _ => 0) (s.cell index) (u.cell index) := by
  unfold ResultSet.cell
  rw [← h.cursor.closed]
  cases ho : s.cursor.closed with
  | true => exact ⟨rfl, h⟩
  | false =>
    simp only [Bool.false_eq_true, if_false]
    rw [checkRow h.cursor ho]
    cases hr : ResultSet.checkRow s.cursor with
    | error e => exact ⟨rfl, h⟩
    | ok _ =>
      rcases (checkColumn h.cursor ho index).cases with
        ⟨e, c, d, hc, hd, hcd, -⟩ | ⟨_, c, d, hc, hd, hcd, ho'⟩ <;> simp only [hc, hd]
      · exact ⟨rfl, hcd, h.null⟩
      · rw [← hcd.cell ho' index]
        split
        · exact ⟨rfl, hcd, h.null⟩
        · exact ⟨rfl, hcd, rfl⟩

theorem get (h : Alike t k s u) (read : Cell.Reader α) (index : Nat) :
    SameAnswer (Alike t) k (fun _ => 0) (s.get read index) (u.get read index) := by
  unfold ResultSet.get
  rcases (h.cell index).cases with ⟨e, s', u', hs, hu, hsu⟩ | ⟨a, s', u', hs, hu, hsu⟩ <;>
    simp only [hs, hu]
  · exact ⟨rfl, hsu⟩
  · exact ⟨rfl, hsu⟩

theorem getByLabel (h : Alike t k s u) (read : Cell.Reader α) (label : String) :
    SameAnswer (Alike t) k (fun _ => 0) (s.getByLabel read label) (u.getByLabel read label) := by
  unfold ResultSet.getByLabel
  rcases (h.findColumn label).cases with ⟨e, s', u', hs, hu, hsu⟩ | ⟨a, s', u', hs, hu, hsu⟩ <;>
    simp only [hs, hu]
  · exact ⟨rfl, hsu⟩
  · exact hsu.get read a

end Alike

/-! ## Operations and runs -/

/-- What a caller can do with a result set, by the type of the answer. -/
inductive Operation : Type → Type 1
  | next : Operation Bool
  | relative (rows : Int) : Operation Bool
  | jump (target : Jump) : Operation Bool
  | position : Operation Position
  | isBeforeFirst : Operation Bool
  | isFirst : Operation Bool
  | isLast : Operation Bool
  | isAfterLast : Operation Bool
  | row : Operation Nat
  | get {α : Type} (read : Cell.Reader α) (index : Nat) : Operation α
  | getByLabel {α : Type} (read : Cell.Reader α) (label : String) : Operation α
  | wasNull : Operation Bool
  | findColumn (label : String) : Operation Nat
  | metadata : Operation Metadata
  | fetchSize : Operation Nat
  | setFetchSize (size : Nat) : Operation Unit
  | fetchDirection : Operation FetchDirection
  | setFetchDirection (direction : FetchDirection) : Operation Unit
  | isClosed : Operation Bool
  | close : Operation Unit

namespace Operation

/-- The answer, and the result set afterwards. -/
def perform : Operation α → ResultSet σ → Except Error α × ResultSet σ
  | next, s => s.next
  | relative rows, s => s.relative rows
  | jump target, s => (s.jump target, s)
  | position, s => (s.position, s)
  | isBeforeFirst, s => (s.isBeforeFirst, s)
  | isFirst, s => (s.isFirst, s)
  | isLast, s => (s.isLast, s)
  | isAfterLast, s => (s.isAfterLast, s)
  | row, s => (s.row, s)
  | get read index, s => s.get read index
  | getByLabel read label, s => s.getByLabel read label
  | wasNull, s => (s.wasNull, s)
  | findColumn label, s => s.findColumn label
  | metadata, s => s.metadata
  | fetchSize, s => (s.fetchSize, s)
  | setFetchSize size, s => s.setFetchSize size
  | fetchDirection, s => (s.fetchDirection, s)
  | setFetchDirection direction, s => (s.setFetchDirection direction, s)
  | isClosed, s => (.ok s.isClosed, s)
  | close, s => (.ok (), s.close)

/-- The moves that succeeded, as an answer tells. -/
def moves : Operation α → Except Error α → Nat
  | next => movesOf 1
  | relative rows => movesOf rows.toNat
  | jump _ | position | isBeforeFirst | isFirst | isLast | isAfterLast | row | get _ _
  | getByLabel _ _ | wasNull | findColumn _ | metadata | fetchSize | setFetchSize _
  | fetchDirection | setFetchDirection _ | isClosed | close => fun _ => 0

/-- Every operation gives the same answer on result sets that are alike, and leaves them so. -/
theorem agree (op : Operation α) (h : Alike t k s u) :
    SameAnswer (Alike t) k op.moves (op.perform s) (op.perform u) := by
  cases op with
  | next => exact h.next
  | relative rows => exact h.relative rows
  | jump target => exact ⟨h.ifOpen fun _ => rfl, h⟩
  | position => exact ⟨h.position, h⟩
  | isBeforeFirst | isFirst | isLast | isAfterLast =>
    exact ⟨congrArg (Except.map _) h.position, h⟩
  | row => exact ⟨h.row, h⟩
  | get read index => exact h.get read index
  | getByLabel read label => exact h.getByLabel read label
  | wasNull => exact ⟨h.ifOpen fun _ => congrArg Except.ok h.null, h⟩
  | findColumn label => exact h.findColumn label
  | metadata => exact h.metadata
  | fetchSize => exact ⟨h.ifOpen fun _ => by rw [h.cursor.settings], h⟩
  | setFetchSize size => exact h.setFetchSize size
  | fetchDirection => exact ⟨h.ifOpen fun _ => rfl, h⟩
  | setFetchDirection direction => exact ⟨h.ifOpen fun _ => rfl, h⟩
  | isClosed => exact ⟨congrArg Except.ok h.cursor.closed, h⟩
  | close => exact ⟨rfl, h.cursor.close, h.null⟩

end Operation

/-- The answers to operations in turn, each with its type. -/
def answers : List ((α : Type) × Operation α) → ResultSet σ → List ((α : Type) × Except Error α)
  | [], _ => []
  | ⟨α, op⟩ :: ops, s => ⟨α, (op.perform s).1⟩ :: answers ops (op.perform s).2

/-- The result set after operations in turn. -/
def performAll : List ((α : Type) × Operation α) → ResultSet σ → ResultSet σ
  | [], s => s
  | ⟨_, op⟩ :: ops, s => performAll ops (op.perform s).2

/-- The moves of operations in turn that succeeded. -/
def movesOfAll : List ((α : Type) × Operation α) → ResultSet σ → Nat
  | [], _ => 0
  | ⟨_, op⟩ :: ops, s => op.moves (op.perform s).1 + movesOfAll ops (op.perform s).2

/-- A run has the same answers on result sets that are alike, and leaves them so. -/
theorem Alike.run (h : Alike t k s u) (ops : List ((α : Type) × Operation α)) :
    answers ops s = answers ops u ∧
      Alike t (k + movesOfAll ops s) (performAll ops s) (performAll ops u) := by
  induction ops generalizing k s u with
  | nil => exact ⟨rfl, h⟩
  | cons a ops ih =>
    obtain ⟨α, op⟩ := a
    obtain ⟨hanswer, hleft⟩ := op.agree h
    obtain ⟨hanswers, hrest⟩ := ih hleft
    unfold answers movesOfAll performAll
    rw [hanswer, hanswers, ← Nat.add_assoc]
    rw [hanswer] at hrest
    exact ⟨rfl, hrest⟩

/-! ## Main statement -/

/-- The number of the current row, if there is one. -/
theorem row_of_position {n : Nat} (hp : s.position = .ok (.after n k))
    (hn : s.cursor.getRowNumber = .ok k) : s.row = .ok (if k ≤ n then k else 0) := by
  unfold row
  rw [hp, hn]
  unfold Position.after
  by_cases hk : k = 0
  · subst hk
    rw [if_pos rfl, ite_self]
  · rw [if_neg hk]
    by_cases hpast : n < k
    · rw [if_pos hpast, if_neg (Nat.not_le.mpr hpast)]
    · rw [if_neg hpast, if_pos (Nat.not_lt.mp hpast)]
      by_cases h1 : k = 1
      · rw [if_pos h1]
      · rw [if_neg h1]
        by_cases hlast : k = n
        · rw [if_pos hlast]
        · rw [if_neg hlast]

/-- **Page boundaries are invisible.** However a table is cut into pages, a run of operations has the
same answers over the pages as over the table in one page. And after `k` successful moves in all the
`k`-th row is current, with its number and position, until the result set is closed; the next move
succeeds, and finds a row exactly if there is another. -/
theorem same_answers_as_one_page {t : Table} {first : Page} {rest : List Page}
    (hcut : t.Cut first rest) {paged : Service σ} (hpaged : paged.Serves first rest)
    {whole : Service τ} (hwhole : whole.Serves t.page []) (query : String)
    (settings : CursorSettings) (watching : Bool) (a : σ) (b : τ)
    (ops : List ((α : Type) × Operation α)) :
    let s : ResultSet σ :=
      { cursor := { calls := { query, service := paged, state := a }, settings, watching } }
    let u : ResultSet τ :=
      { cursor := { calls := { query, service := whole, state := b }, settings, watching } }
    let k := movesOfAll ops s
    let s' := performAll ops s
    answers ops s = answers ops u ∧ (s'.isClosed = false →
      s'.cursor.row = (if k = 0 then none else t.rows[k - 1]?) ∧
      s'.row = .ok (if k ≤ t.rows.length then k else 0) ∧
      s'.position = .ok (.after t.rows.length k) ∧
      (1 ≤ s'.cursor.settings.fetchSize ∧ s'.cursor.settings.fetchSize ≤ maxFetchSize →
        s'.next.1 = .ok (decide (k < t.rows.length)))) := by
  intro s u k s'
  have hstart : Alike t 0 s u := ⟨⟨rfl, .inr (.inl ⟨rfl, Cursor.fresh_start hcut hpaged ..,
    Cursor.fresh_start t.cut_page hwhole ..⟩)⟩, rfl⟩
  obtain ⟨hanswers, hend⟩ := hstart.run ops
  rw [Nat.zero_add] at hend
  refine ⟨hanswers, fun ho => ?_⟩
  have hopen : s'.cursor.closed = false := ho
  have hp : s'.position = .ok (.after t.rows.length k) := by
    unfold position ifOpen
    rw [if_neg (Bool.eq_false_iff.mp hopen)]
    exact (hend.cursor.position hopen).1
  refine ⟨(hend.cursor.row hopen).1, ?_, hp, fun hs => ?_⟩
  · exact row_of_position hp (hend.cursor.rowNumber hopen).1
  · rcases hend.cursor.cases_of_open hopen with ⟨e, -, -, -, he, -⟩ | ⟨hr, -⟩
    · rw [checkFetchSize_of_le hs] at he
      cases he
    · obtain ⟨d, hd, -⟩ := hr.advance
      rw [next_eq hopen]
      exact congrArg Prod.fst hd

/-- Three rows on two pages: the last of them is reached by a move and two more. -/
theorem same_answers_two_pages :
    let row (text : String) : Row := ⟨[some text]⟩
    let t : Table := ⟨[.ofName "col1" "varchar"], row "col1", [row "a", row "b", row "c"]⟩
    let first : Page := { next := some "t2", rows := [row "col1", row "a"], columns := t.columns }
    let second : Page := { rows := [row "b", row "c"] }
    let paged : Service Unit :=
      ⟨fun r _ => { outcome := .page (if r.token = none then first else second), next := () }⟩
    let whole : Service Unit := ⟨fun _ _ => { outcome := .page t.page, next := () }⟩
    let ops : List ((α : Type) × Operation α) :=
      [⟨_, .next⟩, ⟨_, .getByLabel Cell.text "col1"⟩, ⟨_, .relative 2⟩, ⟨_, .isLast⟩]
    let s : ResultSet Unit :=
      { cursor := { calls := { query := "Q1", service := paged, state := () } } }
    let u : ResultSet Unit :=
      { cursor := { calls := { query := "Q1", service := whole, state := () } } }
    t.Cut first [second] ∧ paged.Serves first [second] ∧ whole.Serves t.page [] ∧
      answers ops s = answers ops u ∧ (performAll ops s).cursor.row = some (row "c") ∧
      (performAll ops s).row = .ok 3 ∧ (performAll ops s).position = .ok .last ∧
      (performAll ops s).next.1 = .ok false := by
  intro row t first second paged whole ops s u
  have hcut : t.Cut first [second] :=
    ⟨rfl, ⟨[row "a"], rfl, rfl, nofun⟩, by simp [second]⟩
  have hpaged : paged.Serves first [second] := by
    refine ⟨fun r _ hr => ?_, ⟨fun r _ hr => ?_, trivial⟩, fun _ _ => rfl⟩
    · show CallOutcome.page (if r.token = none then first else second) = _
      rw [if_pos hr]
    · show CallOutcome.page (if r.token = none then first else second) = _
      rw [hr, if_neg nofun]
  have hwhole : whole.Serves t.page [] := ⟨fun _ _ _ => rfl, trivial, fun _ _ => rfl⟩
  obtain ⟨hanswers, hend⟩ :=
    same_answers_as_one_page hcut hpaged hwhole "Q1" {} false () () ops
  have hk : movesOfAll ops s = 3 := by decide +kernel
  obtain ⟨-, hnumber, hposition, hnext⟩ := hend (by decide +kernel)
  have hlast := hnext (by decide +kernel)
  rw [hk] at hnumber hposition hlast
  exact ⟨hcut, hpaged, hwhole, hanswers, by decide +kernel, hnumber, hposition, hlast⟩

end ResultSet

end ResultFlow
