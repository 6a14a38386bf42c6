import ResultFlow.Proofs.Cursor.End
import ResultFlow.ResultSet

/-!
# Loops over a result

A loop moves to the next row until there is none, over a service that answers every request. Its
rows are those of the pages in turn, up to the first page without a row of the result: the loop
takes such a page for the end, although it may name another.

1. `Service.pages` are the pages that a service gives when they are asked for one after the other.
2. `ResultSet.loop` is the loop; `loop_eq` says what it does from the middle of a page.
3. Main statement: the rows of a loop, when a reported end is one, and when a loop sees every row.
-/

namespace ResultFlow

/-! ## The pages of a service -/

/-- The pages that a service gives from a token on, at most `n`, when each is asked for by the token
of the page before it. -/
def Service.pages {σ : Type} (sv : Service σ) (query : String) (size : Nat) :
    Nat → Option String → σ → List Page
  | 0, _, _ => []
  | n + 1, token, s =>
    match (sv.answer ⟨query, token, size⟩ s).outcome with
    | .page p => p :: match p.next with
      | some t => sv.pages query size n (some t) (sv.answer ⟨query, token, size⟩ s).next
      | none => []
    | .failure _ | .breakdown _ | .silence => []

/-- The pages from a token on, if there is one. -/
def Service.pagesAfter {σ : Type} (sv : Service σ) (query : String) (size n : Nat)
    (token : Option String) (s : σ) : List Page :=
  match token with
  | some t => sv.pages query size n (some t) s
  | none => []

theorem Service.pages_succ {σ : Type} {sv : Service σ} {query : String} {size : Nat}
    {token : Option String} {s : σ} {p : Page}
    (h : (sv.answer ⟨query, token, size⟩ s).outcome = .page p) (n : Nat) :
    sv.pages query size (n + 1) token s =
      p :: sv.pagesAfter query size n p.next (sv.answer ⟨query, token, size⟩ s).next := by
  rw [pages, h]
  cases hn : p.next <;> simp only [pagesAfter, hn]

/-- More of the pages begin with fewer of them. -/
theorem Service.pages_isPrefix {σ : Type} (sv : Service σ) (query : String) (size : Nat) {m n : Nat}
    (h : m ≤ n) (token : Option String) (s : σ) :
    sv.pages query size m token s <+: sv.pages query size n token s := by
  induction m generalizing n token s with
  | zero => exact List.nil_prefix
  | succ m ih =>
    obtain ⟨n, rfl⟩ : ∃ k, n = k + 1 := ⟨n - 1, by omega⟩
    unfold pages
    split
    · rw [List.cons_prefix_cons]
      refine ⟨rfl, ?_⟩
      split
      · exact ih (by omega) _ _
      · exact List.nil_prefix
    · exact List.nil_prefix
    · exact List.nil_prefix
    · exact List.nil_prefix

namespace Cursor

variable {σ : Type} {c : Cursor σ}

/-- The rows of a result, page by page. -/
def pageRows : List Page → List (List Row)
  | [] => []
  | p :: rest => p.rows.drop 1 :: rest.map (·.rows)

theorem flatten_pageRows (pages : List Page) : (pageRows pages).flatten = dataRows pages := by
  cases pages with
  | nil => rfl
  | cons p rest => rw [pageRows, dataRows, List.flatten_cons, List.flatMap_def]

/-- The rows before the first page that has none. -/
def leading (blocks : List (List Row)) : List Row :=
  (blocks.takeWhile (!·.isEmpty)).flatten

/-- No row comes after a page that has none. -/
def Unbroken (blocks : List (List Row)) : Prop :=
  (blocks.dropWhile (!·.isEmpty)).flatten = []

theorem leading_cons_of_ne_nil {rows : List Row} (h : rows ≠ []) (blocks : List (List Row)) :
    leading (rows :: blocks) = rows ++ leading blocks := by
  unfold leading
  rw [List.takeWhile_cons_of_pos (by simpa using h), List.flatten_cons]

theorem flatten_eq_leading_append (blocks : List (List Row)) :
    blocks.flatten = leading blocks ++ (blocks.dropWhile (!·.isEmpty)).flatten := by
  rw [leading, ← List.flatten_append, List.takeWhile_append_dropWhile]

theorem leading_isPrefix {as bs : List (List Row)} (h : as <+: bs) : leading as <+: leading bs := by
  obtain ⟨cs, rfl⟩ := h
  unfold leading
  rw [List.takeWhile_append]
  split
  · rename_i hl
    rw [List.IsPrefix.eq_of_length (List.takeWhile_prefix _) hl, List.flatten_append]
    exact List.prefix_append _ _
  · exact List.prefix_rfl

/-- Pages after one without a row add nothing to the rows before it. -/
theorem unbroken_or_leading_eq {as bs : List (List Row)} (h : as <+: bs) :
    Unbroken as ∨ leading bs = leading as := by
  obtain ⟨cs, rfl⟩ := h
  by_cases hl : (as.takeWhile (!·.isEmpty)).length = as.length
  · left
    have hd := congrArg List.length (List.takeWhile_append_dropWhile (p := (!·.isEmpty)) (l := as))
    rw [List.length_append, hl] at hd
    rw [Unbroken, List.eq_nil_of_length_eq_zero (by omega : (as.dropWhile _).length = 0)]
    rfl
  · right
    rw [leading, List.takeWhile_append, if_neg hl, leading]

/-- Rows that are revealed as the first rows of growing pages are all of them exactly when no row
comes after a page that has none. -/
theorem all_seen_iff {seen : Nat → List Row} {blocks : Nat → List (List Row)}
    (hseen : ∀ m n, n ≤ m → seen n = (leading (blocks m)).take n)
    (hblocks : ∀ m n, m ≤ n → blocks m <+: blocks n) :
    (∀ m, ∃ n, (blocks m).flatten <+: seen n) ↔ ∀ m, Unbroken (blocks m) := by
  constructor
  · intro h m
    obtain ⟨n, hn⟩ := h m
    rw [hseen (max m n) n (Nat.le_max_right m n), flatten_eq_leading_append] at hn
    rcases unbroken_or_leading_eq (hblocks m (max m n) (Nat.le_max_left m n)) with hu | hl
    · exact hu
    · rw [hl] at hn
      have hlen := (List.prefix_take_iff.mp hn).1.length_le
      rw [List.length_append] at hlen
      exact List.eq_nil_of_length_eq_zero (by omega)
  · intro h m
    refine ⟨max m (leading (blocks m)).length, ?_⟩
    rw [hseen _ _ Nat.le.refl, flatten_eq_leading_append, show (_ : List Row) = [] from h m,
      List.append_nil]
    exact List.prefix_take_iff.mpr
      ⟨leading_isPrefix (hblocks m _ (Nat.le_max_left ..)), Nat.le_max_right ..⟩

theorem pageRows_isPrefix {as bs : List Page} (h : as <+: bs) : pageRows as <+: pageRows bs := by
  obtain ⟨cs, rfl⟩ := h
  cases as with
  | nil => exact List.nil_prefix
  | cons p rest =>
    rw [List.cons_append, pageRows, pageRows, List.map_append, List.cons_prefix_cons]
    exact ⟨rfl, List.prefix_append _ _⟩

/-- The service answers every request of a cursor whose fetch size it accepts, every call starts in
time, and no caller who would notice is interrupted. -/
structure Served (c : Cursor σ) : Prop where
  size : 1 ≤ c.settings.fetchSize ∧ c.settings.fetchSize ≤ maxFetchSize
  answers : ∀ r s, ∃ p, (c.calls.service.answer r s).outcome = .page p
  timely : c.calls.Timely
  calm : c.watching = true →
    c.calls.interrupted = false ∧ ∀ r s, (c.calls.service.answer r s).interrupts = false

/-- The request for the next page. -/
def request (c : Cursor σ) : PageRequest := ⟨c.query, c.token, c.settings.fetchSize⟩

/-- The calls after the request for the next page. -/
def sent (c : Cursor σ) : Calls σ := ((c.calls.called c.request).send c.request).2

/-- The cursor with the next page loaded. -/
def onPage (c : Cursor σ) (p : Page) : Cursor σ := { c with calls := c.sent }.load p

theorem onPage_ahead (hn : c.rowNumber ≠ 0) (p : Page) : (c.onPage p).ahead = some p.rows := by
  rw [onPage, load_ahead, rowsOf_calls, rowsOf, if_neg hn]

theorem onPage_ahead_zero (hn : c.rowNumber = 0) (p : Page) :
    (c.onPage p).ahead = some (p.rows.drop 1) := by
  rw [onPage, load_ahead, rowsOf_calls, rowsOf, if_pos hn]

/-- The answer of the service interrupts no caller who would notice. -/
theorem Served.sent_interrupted (hs : c.Served) (hw : c.watching = true) :
    c.sent.interrupted = false := by
  obtain ⟨hi, ha⟩ := hs.calm hw
  show (c.calls.interrupted || (c.calls.service.answer c.request c.calls.state).interrupts) = false
  rw [hi, ha]
  rfl

theorem Served.calm_sent (hs : c.Served) :
    (c.watching && c.calls.interrupted) = false ∧ (c.watching && c.sent.interrupted) = false := by
  cases hw : c.watching with
  | false => exact ⟨rfl, rfl⟩
  | true => exact ⟨(hs.calm hw).1, hs.sent_interrupted hw⟩

/-- After a request calls start in time if they did before. -/
theorem timely_sent (ht : c.calls.Timely) : c.sent.Timely :=
  fun h => ht (List.mem_of_mem_tail h)

/-- A fetch that starts in time, and that nobody interrupts, brings the page that the service
answers. -/
theorem fetch_page (hs : 1 ≤ c.settings.fetchSize ∧ c.settings.fetchSize ≤ maxFetchSize)
    (ht : c.calls.Timely) (hb : (c.watching && c.calls.interrupted) = false)
    (ha : (c.watching && c.sent.interrupted) = false) {p : Page}
    (hp : (c.calls.service.answer c.request c.calls.state).outcome = .page p) :
    c.calls.fetch c.token c.settings.fetchSize c.settings.pageTimeout c.watching =
      (.ok p, c.sent) := by
  have hprepare : c.calls.prepare c.token c.settings.fetchSize = .ok c.request := by
    rw [Calls.prepare, checkFetchSize_of_le hs]
    rfl
  have hsettled : Calls.wait c.sent
      ⟨c.request, some (c.calls.service.answer c.request c.calls.state).outcome⟩
      c.settings.pageTimeout c.watching = (.ok p, c.sent) := by
    simp only [Calls.wait, Calls.finish, ha, Bool.false_eq_true, if_false, hp]
    rfl
  rw [Calls.fetch_eq_wait hprepare (Calls.misses_of_calm hb ht)]
  exact hsettled

/-- A fetch brings the page that the service answers. -/
theorem Served.fetch (hs : c.Served) {p : Page}
    (hp : (c.calls.service.answer c.request c.calls.state).outcome = .page p) :
    c.calls.fetch c.token c.settings.fetchSize c.settings.pageTimeout c.watching =
      (.ok p, c.sent) :=
  fetch_page hs.size hs.timely hs.calm_sent.1 hs.calm_sent.2 hp

/-- Nothing stands in the way of the next fetch either. -/
theorem Served.onPage (hs : c.Served) (p : Page) : (c.onPage p).Served where
  size := hs.size
  answers := hs.answers
  timely := timely_sent hs.timely
  calm hw := ⟨hs.sent_interrupted hw, (hs.calm hw).2⟩

theorem Served.step (hs : c.Served) : c.step.Served :=
  ⟨hs.size, hs.answers, hs.timely, hs.calm⟩

/-- A move that needs a page steps on the page that the service answers. -/
theorem Served.advance_load (hs : c.Served) (ho : c.closed = false) (hn : c.needsPage = true)
    {p : Page} (hp : (c.calls.service.answer c.request c.calls.state).outcome = .page p) :
    c.advance = (.ok (c.onPage p).step.row.isSome, (c.onPage p).step) := by
  refine advance_of_ensurePage ho ?_
  unfold ensurePage
  rw [if_pos hn, hs.fetch hp]
  rfl

theorem advance_ready (ho : c.closed = false) (hn : c.needsPage = false) :
    c.advance = (.ok c.step.row.isSome, c.step) :=
  advance_of_ensurePage ho (ensurePage_of_ready hn)

/-- The pages that come after the loaded one, at most `n`. -/
def pagesLeft (c : Cursor σ) (n : Nat) : List Page :=
  c.calls.service.pagesAfter c.query c.settings.fetchSize n c.token c.calls.state

/-- The next page, and those left after it. -/
theorem pages_load {p : Page}
    (hp : (c.calls.service.answer c.request c.calls.state).outcome = .page p) (n : Nat) :
    c.calls.service.pages c.query c.settings.fetchSize (n + 1) c.token c.calls.state =
      p :: (c.onPage p).pagesLeft n :=
  Service.pages_succ hp n

theorem pagesLeft_of_token {t : String} (ht : c.token = some t) (n : Nat) :
    c.pagesLeft n =
      c.calls.service.pages c.query c.settings.fetchSize n c.token c.calls.state := by
  rw [pagesLeft, ht]
  rfl

end Cursor

namespace ResultSet

open Cursor

variable {σ : Type} {s : ResultSet σ}

theorem next_eq (ho : s.cursor.closed = false) :
    s.next = (s.cursor.advance.1, { s with cursor := s.cursor.advance.2 }) := by
  unfold next onCursor
  rw [if_neg (Bool.eq_false_iff.mp ho)]

/-- The rows that the first `n` rounds of a loop see, which moves to the next row until there is
none or the move fails. -/
def loop : Nat → ResultSet σ → List Row
  | 0, _ => []
  | n + 1, s => match s.next with
    | (.ok true, t) => t.cursor.row.toList ++ loop n t
    | (.ok false, _) | (.error _, _) => []

/-- A round that moves to a row. -/
theorem loop_of_row (ho : s.cursor.closed = false) {c : Cursor σ} {r : Row}
    (h : s.cursor.advance = (.ok c.row.isSome, c)) (hr : c.row = some r) (n : Nat) :
    loop (n + 1) s = r :: loop n { s with cursor := c } := by
  rw [loop, next_eq ho, h, hr]
  simp only [Option.isSome_some, hr, Option.toList_some, List.singleton_append]

/-- A round that finds no row ends the loop. -/
theorem loop_of_end (ho : s.cursor.closed = false) {c : Cursor σ}
    (h : s.cursor.advance = (.ok c.row.isSome, c)) (hr : c.row = none) (n : Nat) :
    loop (n + 1) s = [] := by
  rw [loop, next_eq ho, h, hr]
  rfl

/-- A round that loads a page sees its rows and then what the rest of the loop sees, or nothing if it
has none. -/
theorem loop_load {n : Nat} (ho : s.cursor.closed = false) (hs : s.cursor.Served)
    (hn : s.cursor.needsPage = true) {p : Page}
    (hp : (s.cursor.calls.service.answer s.cursor.request s.cursor.calls.state).outcome = .page p)
    {rows : List Row} (ha : (s.cursor.onPage p).ahead = some rows) {blocks : List (List Row)}
    (hrest : ∀ rest, (s.cursor.onPage p).step.ahead = some rest →
      loop n { s with cursor := (s.cursor.onPage p).step } = (rest ++ leading blocks).take n) :
    loop (n + 1) s = (leading (rows :: blocks)).take (n + 1) := by
  have hv := hs.advance_load ho hn hp
  cases rows with
  | nil =>
    rw [loop_of_end ho hv (by rw [step_row, ha]; rfl)]
    rfl
  | cons r rest =>
    rw [loop_of_row ho hv (by rw [step_row, ha]; rfl), hrest rest (by rw [step_ahead, ha]; rfl),
      leading_cons_of_ne_nil (List.cons_ne_nil r rest)]
    rfl

/-- From the middle of a page a loop sees the rows ahead, and then those of the pages left up to the
first that has none. -/
theorem loop_eq {n m : Nat} (hm : n ≤ m) {rows : List Row} (ho : s.cursor.closed = false)
    (hn : s.cursor.rowNumber ≠ 0) (ha : s.cursor.ahead = some rows) (hs : s.cursor.Served) :
    loop n s = (rows ++ leading ((s.cursor.pagesLeft m).map (·.rows))).take n := by
  induction n generalizing m rows s with
  | zero => rfl
  | succ n ih =>
    cases rows with
    | cons r rows =>
      have hp : s.cursor.needsPage = false := by
        simp [needsPage, ha]
      rw [loop_of_row ho (advance_ready ho hp) (by rw [step_row, ha]; rfl),
        ih (s := { s with cursor := s.cursor.step }) (m := m) (by omega) ho (Nat.succ_ne_zero _)
          (by rw [step_ahead, ha]; rfl) hs.step]
      rfl
    | nil =>
      cases ht : s.cursor.token with
      | none =>
        have hp : s.cursor.needsPage = false := by
          simp [needsPage, ha, ht]
        rw [loop_of_end ho (advance_ready ho hp) (by rw [step_row, ha]; rfl), pagesLeft, ht]
        rfl
      | some t =>
        have hp : s.cursor.needsPage = true := by
          simp [needsPage, ha, ht]
        obtain ⟨p, hr⟩ := hs.answers s.cursor.request s.cursor.calls.state
        obtain ⟨m, rfl⟩ : ∃ k, m = k + 1 := ⟨m - 1, by omega⟩
        have hl := pagesLeft_of_token ht (m + 1)
        rw [pages_load hr] at hl
        rw [hl, List.map_cons]
        exact loop_load ho hs hp hr (onPage_ahead hn p) fun rest ha =>
          ih (by omega) ho (Nat.succ_ne_zero _) ha (hs.onPage p).step

/-- A loop sees the rows of the pages up to the first that has none. -/
theorem loop_start {n m : Nat} (hm : n ≤ m) {c : Cursor σ} (ho : c.closed = false)
    (hn : c.rowNumber = 0) (ha : c.ahead = none) (ht : c.token = none) (hs : c.Served) :
    loop n { cursor := c } = (leading (pageRows
      (c.calls.service.pages c.query c.settings.fetchSize m none c.calls.state))).take n := by
  cases n with
  | zero => rfl
  | succ n =>
    obtain ⟨m, rfl⟩ : ∃ k, m = k + 1 := ⟨m - 1, by omega⟩
    have hp : c.needsPage = true := by
      simp [needsPage, ha, hn]
    obtain ⟨p, hr⟩ := hs.answers c.request c.calls.state
    rw [← ht, pages_load hr, pageRows]
    exact loop_load (s := { cursor := c }) ho hs hp hr (onPage_ahead_zero hn p) fun rest ha =>
      loop_eq (by omega) ho (Nat.succ_ne_zero _) ha (hs.onPage p).step

/-- **The end of a result.** After any run, a move that reports the end leaves no row ahead and no
current row, and the result has ended exactly when the move did not load a page that names another
and has no row for it. A loop over a service that answers every request sees the rows of the pages
up to the first that has none; it sees all rows exactly when no row comes after such a page. -/
theorem ended_iff_and_loop_rows (calls : Calls σ) (settings : CursorSettings) (watching : Bool) :
    let c₀ : Cursor σ := { calls, settings, watching }
    let pages := fun m => calls.service.pages calls.query settings.fetchSize m none calls.state
    (∀ actions d, (c₀.performAll actions).advance = (.ok false, d) →
      d.ahead = some [] ∧ d.row = none ∧
        (d.Ended ↔ ¬ ∃ p, (c₀.performAll actions).arrival = some p ∧
          (c₀.performAll actions).rowsOf p = [] ∧ p.next.isSome = true)) ∧
    (c₀.Served →
      (∀ m n, n ≤ m → loop n { cursor := c₀ } = (leading (pageRows (pages m))).take n) ∧
        ((∀ m, ∃ n, dataRows (pages m) <+: loop n { cursor := c₀ }) ↔
          ∀ m, Unbroken (pageRows (pages m)))) := by
  intro c₀ pages
  constructor
  · intro actions d hd
    have hs := History.sound_run calls settings watching actions
    have hc : ((History.start calls settings watching).run actions).cursor =
        c₀.performAll actions := History.run_cursor _ actions
    rw [← hc] at hd ⊢
    exact ended_iff_of_advance_false hs.isOpen (fun ha => (hs.unloaded ha).1) hd
  · intro hs
    have hl : ∀ m n, n ≤ m →
        loop n { cursor := c₀ } = (leading (pageRows (pages m))).take n :=
      fun m n hm => loop_start hm rfl rfl rfl rfl hs
    refine ⟨hl, ?_⟩
    simp only [← flatten_pageRows]
    exact all_seen_iff hl fun m n hm => pageRows_isPrefix (Service.pages_isPrefix _ _ _ hm _ _)

/-- A result whose two pages have rows is seen to its end. -/
theorem loop_rows_two_pages :
    let row (text : String) : Row := ⟨[some text]⟩
    let page (r : PageRequest) : Page :=
      if r.token = none then { next := some "t2", rows := [row "col1", row "a"] }
      else { rows := [row "b"] }
    let service : Service Unit := ⟨fun r _ => { outcome := .page (page r), next := () }⟩
    let calls : Calls Unit := { query := "Q1", service, state := () }
    let c₀ : Cursor Unit := { calls }
    c₀.Served ∧ loop 3 { cursor := c₀ } = [row "a", row "b"] ∧
      (c₀.performAll [.advance, .advance]).advance.1 = .ok false ∧
      (c₀.performAll [.advance, .advance]).advance.2.Ended := by
  intro row page service calls c₀
  have hs : c₀.Served := ⟨by decide, fun r _ => ⟨page r, rfl⟩, nofun, fun h => by cases h⟩
  obtain ⟨hend, hloop⟩ := ended_iff_and_loop_rows calls {} false
  refine ⟨hs, ?_, rfl, ?_⟩
  · rw [(hloop hs).1 3 3 Nat.le.refl]
    decide
  · refine (hend [.advance, .advance] _ rfl).2.2.mpr ?_
    rintro ⟨p, hp, -, -⟩
    cases hp

/-- A first page of column names alone is taken for the end, although it names another. -/
theorem end_reported_early :
    let row (text : String) : Row := ⟨[some text]⟩
    let pages : List Page :=
      [{ next := some "t2", rows := [row "col1"] }, { rows := [row "a"] }]
    let calls : Calls (List Service.Reply) :=
      { query := "Q1", service := .script, state := pages.map (⟨.page ·, false⟩) }
    let c₀ : Cursor (List Service.Reply) := { calls }
    c₀.advance.1 = .ok false ∧ c₀.advance.2.token = some "t2" ∧
      c₀.advance.2.position = .ok .first ∧ c₀.advance.2.advance.1 = .ok true ∧
      loop 2 { cursor := c₀ } = [] ∧ dataRows pages = [row "a"] := by
  exact ⟨rfl, rfl, rfl, rfl, by decide, by decide⟩

end ResultSet

end ResultFlow
