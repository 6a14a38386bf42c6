import ResultFlow.Proofs.Cursor.Loop
import ResultFlow.Proofs.Cursor.Operations

/-!
# Moving by several rows

A move by several rows is that many moves to the next row, up to the first that fails. This holds of
the whole outcome: the answer, and the result set that is left with every request that reached the
service.

1. `relative_of_error` and `relative_of_ok` take off the first move.
2. `relative_eq_last_move` and `relative_add` follow by induction on the rows, over any number of
   page boundaries and past the end of the result.
3. Main statement: both, and the movements that are refused.
-/

namespace ResultFlow.ResultSet

variable {σ : Type} {s t : ResultSet σ}

/-- The result set after `k` calls of `next`, whatever they answer. -/
def afterNexts (s : ResultSet σ) (k : Nat) : ResultSet σ :=
  performAll (List.replicate k ⟨Bool, .next⟩) s

theorem afterNexts_succ (s : ResultSet σ) (k : Nat) :
    s.afterNexts (k + 1) = s.next.2.afterNexts k := rfl

theorem next_of_closed (hc : s.cursor.closed = true) : s.next = (.error .resultSetClosed, s) :=
  if_pos hc

/-- A move that succeeds leaves the result set open. -/
theorem open_of_next {b : Bool} (h : s.next = (.ok b, t)) :
    s.cursor.closed = false ∧ t.cursor.closed = false := by
  have ho : s.cursor.closed = false := by
    rw [Bool.eq_false_iff]
    intro hc
    rw [next_of_closed hc] at h
    cases h
  refine ⟨ho, ?_⟩
  have ht : t = { s with cursor := s.cursor.perform .advance } :=
    congrArg Prod.snd (h.symm.trans (next_eq ho))
  rw [ht]
  exact Cursor.perform_closed ho .advance

/-! ## Taking off the first move -/

/-- What was answered before counts only if no move is made. -/
theorem advanceTimes_succ (a b : Bool) (n : Nat) (c : Cursor σ) :
    advanceTimes a (n + 1) c = advanceTimes b (n + 1) c := rfl

theorem relative_natCast (ho : s.cursor.closed = false) {n : Nat} (hn : 1 ≤ n) :
    s.relative n =
      ((advanceTimes false n s.cursor).1,
        { s with cursor := (advanceTimes false n s.cursor).2 }) := by
  unfold relative onCursor
  rw [if_neg (Bool.eq_false_iff.mp ho)]
  dsimp only
  rw [if_neg (by omega), Int.toNat_natCast]

/-- A first move that fails is the only one. -/
theorem relative_of_error {e : Error} (h : s.next = (.error e, t)) (n : Nat) :
    s.relative (n + 1 : Nat) = (.error e, t) := by
  by_cases hc : s.cursor.closed = true
  · rw [next_of_closed hc] at h
    exact (if_pos hc).trans h
  · have ho := Bool.eq_false_iff.mpr hc
    rw [next_eq ho] at h
    rw [relative_natCast ho (Nat.succ_pos n), ← h, advanceTimes]
    have he : s.cursor.advance.1 = .error e := congrArg Prod.fst h
    rcases ha : s.cursor.advance with ⟨e' | b, d⟩
    · rfl
    · rw [ha] at he
      cases he

/-- After a first move that succeeds the others follow. -/
theorem relative_of_ok {b : Bool} (h : s.next = (.ok b, t)) (n : Nat) :
    s.relative (n + 1 : Nat) = if n = 0 then (.ok b, t) else t.relative n := by
  obtain ⟨ho, ht⟩ := open_of_next h
  rw [next_eq ho] at h
  rw [relative_natCast ho (Nat.succ_pos n), advanceTimes]
  rcases ha : s.cursor.advance with ⟨e | b', d⟩ <;> rw [ha] at h <;> cases h
  cases n with
  | zero => rfl
  | succ n =>
    rw [if_neg (Nat.succ_ne_zero n), relative_natCast ht (Nat.succ_pos n)]
    dsimp only
    rw [advanceTimes_succ b false]

/-! ## All moves -/

/-- A move by several rows is the last of the moves that are made: the others succeeded, and it is
the last one asked for or fails. -/
theorem relative_eq_last_move (s : ResultSet σ) (n : Nat) : ∃ k ≤ n,
    (∀ i < k, ∃ b, (s.afterNexts i).next.1 = .ok b) ∧
      (k = n ∨ ∃ e, (s.afterNexts k).next.1 = .error e) ∧
      s.relative (n + 1 : Nat) = (s.afterNexts k).next := by
  induction n generalizing s with
  | zero =>
    refine ⟨0, Nat.le_refl 0, fun i hi => absurd hi (Nat.not_lt_zero i), .inl rfl, ?_⟩
    rcases h : s.next with ⟨e | b, t⟩
    · exact (relative_of_error h 0).trans h.symm
    · exact (relative_of_ok h 0).trans h.symm
  | succ n ih =>
    rcases h : s.next with ⟨e | b, t⟩
    · exact ⟨0, Nat.zero_le _, fun i hi => absurd hi (Nat.not_lt_zero i),
        .inr ⟨e, congrArg Prod.fst h⟩, (relative_of_error h _).trans h.symm⟩
    · obtain ⟨k, hk, hok, hend, hlast⟩ := ih t
      have hafter : ∀ i, s.afterNexts (i + 1) = t.afterNexts i := by
        intro i
        rw [afterNexts_succ, h]
      refine ⟨k + 1, Nat.succ_le_succ hk, ?_, ?_, ?_⟩
      · rintro (_ | i) hi
        · exact ⟨b, congrArg Prod.fst h⟩
        · rw [hafter]
          exact hok i (Nat.lt_of_succ_lt_succ hi)
      · rw [hafter]
        exact hend.imp_left (congrArg (· + 1))
      · rw [hafter, ← hlast, relative_of_ok h, if_neg (Nat.succ_ne_zero n)]

/-- Moves that all succeed go on from where they lead. -/
theorem relative_add {m n : Nat} {b : Bool} (h : s.relative (m + 1 : Nat) = (.ok b, t)) :
    t.relative (n + 1 : Nat) = s.relative (m + 1 + (n + 1) : Nat) := by
  induction m generalizing s with
  | zero =>
    rcases hs : s.next with ⟨e | b', u⟩
    · rw [relative_of_error hs] at h
      cases h
    · rw [relative_of_ok hs, if_pos rfl] at h
      cases h
      rw [Nat.add_comm (0 + 1), relative_of_ok hs, if_neg (Nat.succ_ne_zero n)]
  | succ m ih =>
    rcases hs : s.next with ⟨e | b', u⟩
    · rw [relative_of_error hs] at h
      cases h
    · rw [relative_of_ok hs, if_neg (Nat.succ_ne_zero m)] at h
      rw [ih h, Nat.add_right_comm (m + 1) 1 (n + 1), relative_of_ok hs, if_neg (by omega)]

/-! ## Main statement -/

/-- **Moving by several rows.** A move by `rows ≥ 1` rows has the answer of the last of the moves to
the next row that are made, and leaves what that one leaves, every request that was sent among it:
all before it succeeded, and it is the move number `rows` or fails. If a move by several rows
succeeds, one by several more does from there what one by all of them does from the start. Movements
by less than one row are refused while the result set is open, as the ones that it does not have
are, and refused movements change nothing. -/
theorem relative_is_repeated_next :
    (∀ (s : ResultSet σ) (rows : Int), 1 ≤ rows → ∃ k : Nat, (k + 1 : Int) ≤ rows ∧
      (∀ i < k, ∃ b, (s.afterNexts i).next.1 = .ok b) ∧
      ((k + 1 : Int) = rows ∨ ∃ e, (s.afterNexts k).next.1 = .error e) ∧
      s.relative rows = (s.afterNexts k).next) ∧
    (∀ (s t : ResultSet σ) (m n : Int) (b : Bool), 1 ≤ m → 1 ≤ n → s.relative m = (.ok b, t) →
      t.relative n = s.relative (m + n)) ∧
    ∀ s : ResultSet σ, s.cursor.closed = false →
      (∀ rows < 1, s.relative rows = (.error .notForward, s)) ∧
      ∀ target, (Operation.jump target).perform s = (.error .forwardOnly, s) := by
  refine ⟨fun s rows hrows => ?_, fun s t m n b hm hn h => ?_, fun s ho => ⟨fun rows hrows => ?_,
    fun target => ?_⟩⟩
  · obtain ⟨n, rfl⟩ : ∃ n : Nat, rows = (n + 1 : Nat) := ⟨(rows - 1).toNat, by omega⟩
    obtain ⟨k, hk, hok, hend, hlast⟩ := s.relative_eq_last_move n
    exact ⟨k, by omega, hok, hend.imp_left (by omega), hlast⟩
  · obtain ⟨m, rfl⟩ : ∃ k : Nat, m = (k + 1 : Nat) := ⟨(m - 1).toNat, by omega⟩
    obtain ⟨n, rfl⟩ : ∃ k : Nat, n = (k + 1 : Nat) := ⟨(n - 1).toNat, by omega⟩
    rw [relative_add h, Int.natCast_add (m + 1)]
  · unfold relative onCursor
    rw [if_neg (Bool.eq_false_iff.mp ho)]
    dsimp only
    rw [if_pos hrows]
  · show (s.ifOpen (.error .forwardOnly), s) = _
    rw [ifOpen, if_neg (Bool.eq_false_iff.mp ho)]

/-- Over two pages and a failure between them: a move by four rows stops where the second page
cannot be had at first. Tried again it goes on, and a move by one row and then by two is one by
three. -/
theorem relative_over_failed_page :
    let row (text : String) : Row := ⟨[some text]⟩
    let replies : List Service.Reply :=
      [⟨.page { next := some "t2", rows := [row "col1", row "a", row "b"] }, false⟩,
        ⟨.failure (.service "busy"), false⟩, ⟨.page { rows := [row "c"] }, false⟩]
    let calls : Calls (List Service.Reply) :=
      { query := "Q1", service := .script, state := replies }
    let s : ResultSet (List Service.Reply) := { cursor := { calls } }
    let failed := (s.relative 4).2
    let moved := (failed.relative 1).2
    (∃ e, (s.relative 4).1 = .error e) ∧ (∃ k : Nat, (k + 1 : Int) ≤ 4 ∧
        (∀ i < k, ∃ b, (s.afterNexts i).next.1 = .ok b) ∧
        s.relative 4 = (s.afterNexts k).next) ∧
      (failed.relative 1).1 = .ok true ∧ moved.relative 2 = failed.relative (1 + 2) ∧
      (moved.relative 2).1 = .ok false ∧ moved.relative (-1) = (.error .notForward, moved) ∧
      (Operation.jump .last).perform moved = (.error .forwardOnly, moved) := by
  intro row replies calls s failed moved
  obtain ⟨hlast, hadd, hrefused⟩ := relative_is_repeated_next (σ := List Service.Reply)
  obtain ⟨k, hk, hok, -, hs⟩ := hlast s 4 (by decide)
  have hone : failed.relative 1 = (.ok true, moved) := Prod.ext rfl rfl
  obtain ⟨hback, hjump⟩ := hrefused moved rfl
  exact ⟨⟨_, rfl⟩, ⟨k, hk, hok, hs⟩, rfl, hadd failed moved 1 2 true (by decide) (by decide) hone,
    rfl, hback (-1) (by decide), hjump .last⟩

end ResultFlow.ResultSet
