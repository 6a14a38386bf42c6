import ResultFlow.Proofs.Cursor.Loop

/-!
# Pages of a table

A table is a result as a whole: its columns and its rows. A service may cut it into pages of any
sizes, each with a row of the table. Then a cursor does not show where the cuts are: what it gives
depends on the number of moves that were made, and not on the page that it stands on.

1. `Table.Cut` and `Service.Serves` say how a table is served in pages.
2. `Cursor.Fresh` and `Cursor.After` say where a cursor is on a table, before its first page and
   after `k` moves. `After.ensurePage` and `After.step` say that it gets on.
3. `Cursor.Ready` joins the two for the operations: every move succeeds and finds a row exactly if
   one is left.
-/

namespace ResultFlow

/-! ## Tables and services -/

/-- A result as a whole. -/
structure Table where
  columns : List Column
  /-- The column names, which come before the rows. -/
  names : Row
  rows : List Row

/-- Pages cut a table: the first begins with the column names, and each page has a row of the table,
unless it is the only one. -/
structure Table.Cut (t : Table) (first : Page) (rest : List Page) : Prop where
  columns : first.columns = t.columns
  rows : ∃ own, first.rows = t.names :: own ∧ own ++ rest.flatMap (·.rows) = t.rows ∧
    (own = [] → rest = [])
  filled : ∀ p ∈ rest, p.rows ≠ []

/-- The table in one page. -/
def Table.page (t : Table) : Page := { rows := t.names :: t.rows, columns := t.columns }

theorem Table.cut_page (t : Table) : t.Cut t.page [] where
  columns := rfl
  rows := ⟨t.rows, rfl, List.append_nil _, fun _ => rfl⟩
  filled _ hp := by cases hp

/-- The service answers every request of a token by one page. -/
def Service.Names {σ : Type} (sv : Service σ) (token : Option String) (p : Page) : Prop :=
  ∀ r s, r.token = token → (sv.answer r s).outcome = .page p

/-- From a token on, each page is the one that the page before it named. -/
def Service.Chains {σ : Type} (sv : Service σ) : Option String → List Page → Prop
  | none, [] => True
  | some t, p :: rest => sv.Names (some t) p ∧ sv.Chains p.next rest
  | none, _ :: _ | some _, [] => False

/-- The service answers every request with the page that its token names, and interrupts nobody. -/
structure Service.Serves {σ : Type} (sv : Service σ) (first : Page) (rest : List Page) : Prop where
  opening : sv.Names none first
  chain : sv.Chains first.next rest
  calm : ∀ r s, (sv.answer r s).interrupts = false

theorem Service.Chains.token_none {σ : Type} {sv : Service σ} {token : Option String}
    (h : sv.Chains token []) : token = none := by
  cases token with
  | none => rfl
  | some t => exact h.elim

theorem Service.Chains.rest_nil {σ : Type} {sv : Service σ} {rest : List Page}
    (h : sv.Chains none rest) : rest = [] := by
  cases rest with
  | nil => rfl
  | cons p rest => exact h.elim

theorem flatMap_rows_eq_nil_iff {pages : List Page} (h : ∀ p ∈ pages, p.rows ≠ []) :
    pages.flatMap (·.rows) = [] ↔ pages = [] := by
  rw [List.flatMap_eq_nil_iff]
  refine ⟨fun hn => List.eq_nil_iff_forall_not_mem.mpr fun p hp => h p hp (hn p hp), ?_⟩
  rintro rfl p hp
  cases hp

/-- Where a cursor stands after some moves over rows. -/
def Position.after (rows moves : Nat) : Position :=
  if moves = 0 then beforeFirst
  else if rows < moves then afterLast
  else if moves = 1 then first
  else if moves = rows then last
  else middle

namespace Cursor

variable {σ : Type} {c : Cursor σ} {t : Table} {k : Nat} {rest : List Page}

/-! ## Where a cursor is on a table -/

/-- No page was loaded yet. -/
structure Fresh (t : Table) (c : Cursor σ) : Prop where
  isOpen : c.closed = false
  timely : c.calls.Timely
  calm : c.watching = true → c.calls.interrupted = false
  served : ∃ first rest, t.Cut first rest ∧ c.calls.service.Serves first rest
  ahead : c.ahead = none
  token : c.token = none
  metadata : c.metadata = none
  row : c.row = none
  moves : c.rowNumber = 0

/-- `k` moves were made, and pages are left after the loaded one. -/
structure After (t : Table) (k : Nat) (rest : List Page) (c : Cursor σ) : Prop where
  isOpen : c.closed = false
  timely : c.calls.Timely
  calm : c.watching = true → c.calls.interrupted = false
  quiet : ∀ r s, (c.calls.service.answer r s).interrupts = false
  size : 1 ≤ c.settings.fetchSize ∧ c.settings.fetchSize ≤ maxFetchSize
  metadata : c.metadata = some ⟨t.columns⟩
  row : c.row = if k = 0 then none else t.rows[k - 1]?
  moves : c.rowNumber = k
  chain : c.calls.service.Chains c.token rest
  filled : ∀ p ∈ rest, p.rows ≠ []
  ahead : ∃ ahead, c.ahead = some ahead ∧ ahead ++ rest.flatMap (·.rows) = t.rows.drop k
  /-- The cursor does not leave the first page without a move. -/
  unmoved : k = 0 → c.needsPage = false

theorem calm_sent_of_quiet (hc : c.watching = true → c.calls.interrupted = false)
    (hq : ∀ r s, (c.calls.service.answer r s).interrupts = false) :
    (c.watching && c.calls.interrupted) = false ∧ (c.watching && c.sent.interrupted) = false := by
  have hs : c.sent.interrupted = c.calls.interrupted := by
    show (c.calls.interrupted || (c.calls.service.answer c.request c.calls.state).interrupts) = _
    rw [hq, Bool.or_false]
  rw [hs]
  cases hw : c.watching with
  | false => exact ⟨rfl, rfl⟩
  | true => exact ⟨hc hw, hc hw⟩

/-- A page that is needed is loaded as the service answers it. -/
theorem ensurePage_page (hn : c.needsPage = true)
    (hs : 1 ≤ c.settings.fetchSize ∧ c.settings.fetchSize ≤ maxFetchSize) (ht : c.calls.Timely)
    (hc : c.watching = true → c.calls.interrupted = false)
    (hq : ∀ r s, (c.calls.service.answer r s).interrupts = false) {p : Page}
    (hp : (c.calls.service.answer c.request c.calls.state).outcome = .page p) :
    c.ensurePage = (.ok (), c.onPage p) := by
  obtain ⟨hb, ha⟩ := calm_sent_of_quiet hc hq
  unfold ensurePage
  rw [if_pos hn, fetch_page hs ht hb ha hp]
  rfl

theorem onPage_calm (hc : c.watching = true → c.calls.interrupted = false)
    (hq : ∀ r s, (c.calls.service.answer r s).interrupts = false) (p : Page) :
    (c.onPage p).watching = true → (c.onPage p).calls.interrupted = false := by
  intro hw
  show (c.calls.interrupted || (c.calls.service.answer c.request c.calls.state).interrupts) = false
  rw [hq, Bool.or_false]
  exact hc hw

/-- Before the first page a fetch size that is refused changes nothing. -/
theorem Fresh.ensurePage_refused (h : c.Fresh t) {e : Error}
    (he : checkFetchSize c.settings.fetchSize = .error e) : c.ensurePage = (.error e, c) := by
  have hn : c.needsPage = true := by
    simp [needsPage, h.ahead, h.moves]
  have hp : c.calls.prepare c.token c.settings.fetchSize = .error e := by
    rw [Calls.prepare, he]
    rfl
  unfold ensurePage
  rw [if_pos hn, Calls.fetch_of_refused hp]

/-- The first page is loaded without its column names. -/
theorem Fresh.ensurePage (h : c.Fresh t)
    (hs : 1 ≤ c.settings.fetchSize ∧ c.settings.fetchSize ≤ maxFetchSize) :
    ∃ d rest, c.ensurePage = (.ok (), d) ∧ d.After t 0 rest ∧ d.needsPage = false ∧
      d.settings = c.settings := by
  obtain ⟨first, rest, hcut, hserved⟩ := h.served
  obtain ⟨own, hfirst, hrows, hown⟩ := hcut.rows
  have hn : c.needsPage = true := by
    simp [needsPage, h.ahead, h.moves]
  have hp := hserved.opening c.request c.calls.state h.token
  have hload : (c.onPage first).ahead = some own := by
    rw [onPage_ahead_zero h.moves, hfirst]
    rfl
  have hready : (c.onPage first).needsPage = false := by
    cases own with
    | cons r own => simp [needsPage, hload]
    | nil =>
      -- a first page without a row of the table is the only one
      have htoken : first.next = none := by
        have := hserved.chain
        rw [hown rfl] at this
        exact this.token_none
      simp [needsPage, onPage, htoken]
  refine ⟨c.onPage first, rest, ensurePage_page hn hs h.timely h.calm hserved.calm hp, ?_, hready, rfl⟩
  exact {
    isOpen := h.isOpen
    timely := timely_sent h.timely
    calm := onPage_calm h.calm hserved.calm first
    quiet := hserved.calm
    size := hs
    metadata := by
      rw [← hcut.columns]
      exact load_metadata_of_none (c := { c with calls := c.sent }) h.metadata
    row := h.row
    moves := h.moves
    chain := hserved.chain
    filled := hcut.filled
    ahead := ⟨own, hload, hrows⟩
    unmoved := fun _ => hready }

/-- The next page is loaded when the rows of the last one are used up. -/
theorem After.ensurePage (h : c.After t k rest) :
    ∃ d rest, c.ensurePage = (.ok (), d) ∧ d.After t k rest ∧ d.needsPage = false ∧
      d.settings = c.settings := by
  cases hn : c.needsPage with
  | false =>
    exact ⟨c, rest, ensurePage_of_ready hn, h, hn, rfl⟩
  | true =>
    obtain ⟨rows, ha, hrows⟩ := h.ahead
    -- after the first move a page is taken with all its rows
    have hk : k ≠ 0 := fun hk => by
      rw [h.unmoved hk] at hn
      cases hn
    obtain ⟨hnil, htoken⟩ : rows = [] ∧ c.token.isSome = true := by
      simpa [needsPage, ha, and_comm] using hn
    obtain ⟨token, ht⟩ := Option.isSome_iff_exists.mp htoken
    have hchain := h.chain
    rw [ht] at hchain
    cases rest with
    | nil => exact hchain.elim
    | cons p rest =>
      have hp := hchain.1 c.request c.calls.state ht
      have hload : (c.onPage p).ahead = some p.rows := onPage_ahead (h.moves ▸ hk) p
      have hready : (c.onPage p).needsPage = false := by
        simp [needsPage, hload, h.filled p List.mem_cons_self]
      refine ⟨c.onPage p, rest, ensurePage_page hn h.size h.timely h.calm h.quiet hp, ?_, hready, rfl⟩
      exact {
        isOpen := h.isOpen
        timely := timely_sent h.timely
        calm := onPage_calm h.calm h.quiet p
        quiet := h.quiet
        size := h.size
        metadata := by
          rw [onPage, load_metadata]
          show c.metadata.or _ = _
          rw [h.metadata, Option.some_or]
        row := h.row
        moves := h.moves
        chain := hchain.2
        filled := fun q hq => h.filled q (List.mem_cons_of_mem p hq)
        ahead := ⟨p.rows, hload, by rw [← hrows, hnil]; rfl⟩
        unmoved := fun hk' => absurd hk' hk }

/-- Without a page to load, rows are ahead as long as any are left. -/
theorem After.ahead_eq_nil_iff (h : c.After t k rest) {rows : List Row} (ha : c.ahead = some rows)
    (hn : c.needsPage = false) : rows = [] ↔ t.rows.length ≤ k := by
  obtain ⟨ahead, ha', hrows⟩ := h.ahead
  obtain rfl : ahead = rows := Option.some.inj (ha'.symm.trans ha)
  rw [← List.drop_eq_nil_iff, ← hrows, List.append_eq_nil_iff, flatMap_rows_eq_nil_iff h.filled]
  refine ⟨fun hnil => ⟨hnil, ?_⟩, fun hnil => hnil.1⟩
  have htoken : c.token = none := by
    simpa [needsPage, ha, hnil] using hn
  exact (htoken ▸ h.chain).rest_nil

/-- A step takes the next row of the table. -/
theorem After.step (h : c.After t k rest) (hn : c.needsPage = false) :
    c.step.After t (k + 1) rest := by
  obtain ⟨rows, ha, hrows⟩ := h.ahead
  have hnil := h.ahead_eq_nil_iff ha hn
  -- past the end both sides are empty, and stay so
  have hhead : rows.head? = t.rows[k]? := by
    rw [← List.head?_drop, ← hrows]
    cases rows with
    | cons r rows => rfl
    | nil => rw [hrows, List.drop_eq_nil_of_le (hnil.mp rfl)]
  have htail : rows.tail ++ rest.flatMap (·.rows) = t.rows.drop (k + 1) := by
    rw [← List.tail_drop, ← hrows]
    cases rows with
    | cons r rows => rfl
    | nil =>
      rw [hrows, List.drop_eq_nil_of_le (hnil.mp rfl)]
      exact hrows.trans (List.drop_eq_nil_of_le (hnil.mp rfl))
  exact {
    isOpen := h.isOpen
    timely := h.timely
    calm := h.calm
    quiet := h.quiet
    size := h.size
    metadata := h.metadata
    row := by
      rw [step_row, ha, if_neg (Nat.succ_ne_zero k)]
      exact hhead
    moves := congrArg Nat.succ h.moves
    chain := h.chain
    filled := h.filled
    ahead := ⟨rows.tail, by rw [step_ahead, ha]; rfl, htail⟩
    unmoved := fun hk => absurd hk (Nat.succ_ne_zero k) }

/-- Nothing is left exactly when all rows were passed. -/
theorem After.exhausted_iff (h : c.After t k rest) :
    c.exhausted = true ↔ t.rows.length ≤ k := by
  obtain ⟨rows, ha, hrows⟩ := h.ahead
  have hleft : t.rows.length ≤ k ↔ rows = [] ∧ rest = [] := by
    rw [← List.drop_eq_nil_iff, ← hrows, List.append_eq_nil_iff, flatMap_rows_eq_nil_iff h.filled]
  have hlast : c.token = none ↔ rest = [] :=
    ⟨fun ht => (ht ▸ h.chain).rest_nil, fun hr => (hr ▸ h.chain).token_none⟩
  rw [hleft, ← hlast]
  simp [exhausted, ha, and_comm]

theorem After.position (h : c.After t k rest) :
    c.position = .ok (.after t.rows.length k) := by
  unfold Cursor.position Position.after
  rw [if_neg (Bool.eq_false_iff.mp h.isOpen), h.moves]
  split
  · rfl
  · rename_i hk
    have hgone : c.row.isNone = true ↔ t.rows.length < k := by
      rw [h.row, if_neg hk, Option.isNone_iff_eq_none, List.getElem?_eq_none_iff]
      omega
    have hlast := h.exhausted_iff
    by_cases hpast : t.rows.length < k
    · have hboth := Bool.and_eq_true_iff.mpr ⟨hlast.mpr (Nat.le_of_lt hpast), hgone.mpr hpast⟩
      rw [if_pos hpast, if_pos hboth]
    · rw [if_neg hpast, if_neg fun hb => hpast (hgone.mp (Bool.and_eq_true_iff.mp hb).2)]
      split
      · rfl
      · by_cases hk' : k = t.rows.length
        · rw [if_pos hk', if_pos (hlast.mpr (by omega))]
        · rw [if_neg hk', if_neg fun hb => hk' (by have := hlast.mp hb; omega)]

/-- A cursor that was not used yet. -/
theorem fresh_start {first : Page} {sv : Service σ} (hcut : t.Cut first rest)
    (hserved : sv.Serves first rest) (query : String) (state : σ) (settings : CursorSettings)
    (watching : Bool) :
    ({ calls := { query, service := sv, state }, settings, watching } : Cursor σ).Fresh t where
  isOpen := rfl
  timely := nofun
  calm _ := rfl
  served := ⟨first, rest, hcut, hserved⟩
  ahead := rfl
  token := rfl
  metadata := rfl
  row := rfl
  moves := rfl

/-! ## What the operations of a cursor do on a table -/

theorem Fresh.position (h : c.Fresh t) : c.position = .ok .beforeFirst := by
  unfold Cursor.position
  rw [if_neg (Bool.eq_false_iff.mp h.isOpen), if_pos h.moves]

theorem Fresh.advance_refused (h : c.Fresh t) {e : Error}
    (he : checkFetchSize c.settings.fetchSize = .error e) : c.advance = (.error e, c) :=
  advance_of_error h.isOpen (h.ensurePage_refused he)

theorem Fresh.getMetadata_refused (h : c.Fresh t) {e : Error}
    (he : checkFetchSize c.settings.fetchSize = .error e) : c.getMetadata = (.error e, c) :=
  getMetadata_of_error h.isOpen h.metadata (h.ensurePage_refused he)

theorem Fresh.of_settings (h : c.Fresh t) (settings : CursorSettings) :
    ({ c with settings } : Cursor σ).Fresh t :=
  ⟨h.isOpen, h.timely, h.calm, h.served, h.ahead, h.token, h.metadata, h.row, h.moves⟩

/-- `k` moves were made, and the pages that are not loaded can be asked for. -/
def Ready (t : Table) (k : Nat) (c : Cursor σ) : Prop :=
  (∃ rest, c.After t k rest) ∨
    (k = 0 ∧ c.Fresh t ∧ 1 ≤ c.settings.fetchSize ∧ c.settings.fetchSize ≤ maxFetchSize)

namespace Ready

theorem isOpen (h : c.Ready t k) : c.closed = false := by
  rcases h with ⟨rest, h⟩ | ⟨-, h, -⟩
  · exact h.isOpen
  · exact h.isOpen

theorem row (h : c.Ready t k) : c.row = if k = 0 then none else t.rows[k - 1]? := by
  rcases h with ⟨rest, h⟩ | ⟨rfl, h, -⟩
  · exact h.row
  · exact h.row

theorem moves (h : c.Ready t k) : c.rowNumber = k := by
  rcases h with ⟨rest, h⟩ | ⟨rfl, h, -⟩
  · exact h.moves
  · exact h.moves

theorem position (h : c.Ready t k) : c.position = .ok (.after t.rows.length k) := by
  rcases h with ⟨rest, h⟩ | ⟨rfl, h, -⟩
  · exact h.position
  · exact h.position

/-- The settings may change to others that the service accepts. -/
theorem of_settings (h : c.Ready t k) {settings : CursorSettings}
    (hs : 1 ≤ settings.fetchSize ∧ settings.fetchSize ≤ maxFetchSize) :
    ({ c with settings } : Cursor σ).Ready t k := by
  rcases h with ⟨rest, h⟩ | ⟨hk, h, -⟩
  · exact .inl ⟨rest, h.isOpen, h.timely, h.calm, h.quiet, hs, h.metadata, h.row, h.moves, h.chain,
      h.filled, h.ahead, h.unmoved⟩
  · exact .inr ⟨hk, h.of_settings settings, hs⟩

theorem ensurePage (h : c.Ready t k) :
    ∃ d rest, c.ensurePage = (.ok (), d) ∧ d.After t k rest ∧ d.needsPage = false ∧
      d.settings = c.settings := by
  rcases h with ⟨rest, h⟩ | ⟨rfl, h, hs⟩
  · exact h.ensurePage
  · exact h.ensurePage hs

/-- Every move succeeds, and finds a row as long as one is left. -/
theorem advance (h : c.Ready t k) :
    ∃ d, c.advance = (.ok (decide (k < t.rows.length)), d) ∧ d.Ready t (k + 1) ∧
      d.settings = c.settings := by
  obtain ⟨d, rest, he, hd, hn, hs⟩ := h.ensurePage
  refine ⟨d.step, ?_, .inl ⟨rest, hd.step hn⟩, hs⟩
  have hrow : d.step.row = t.rows[k]? := by
    rw [(hd.step hn).row, if_neg (Nat.succ_ne_zero k)]
    rfl
  have hsome : d.step.row.isSome = decide (k < t.rows.length) := by
    rw [hrow, Bool.eq_iff_iff, decide_eq_true_iff, isSome_getElem?]
  rw [advance_of_ensurePage h.isOpen he, hsome]

/-- The columns are those of the table. -/
theorem getMetadata (h : c.Ready t k) :
    ∃ d, c.getMetadata = (.ok ⟨t.columns⟩, d) ∧ d.Ready t k ∧ d.settings = c.settings := by
  rcases h with ⟨rest, h⟩ | ⟨rfl, h, hs⟩
  · exact ⟨c, getMetadata_of_some h.isOpen h.metadata, .inl ⟨rest, h⟩, rfl⟩
  · obtain ⟨d, rest, he, hd, -, hds⟩ := h.ensurePage hs
    exact ⟨d, getMetadata_of_ensurePage h.isOpen h.metadata he hd.metadata, .inl ⟨rest, hd⟩, hds⟩

end Ready

end Cursor

end ResultFlow
