import ResultFlow.Number.Decimal

/-!
# The decimal text of a number

A number is read back from its decimal text (`read?_toString`), within any bounds that it keeps. The
text has no leading zeros (`head?_toDigits`).
-/

namespace ResultFlow.Integer

theorem digits?_toDigits (n : Nat) : digits? (Nat.toDigits 10 n) = some n := by
  have hd : (Nat.toDigits 10 n).all Char.isDigit = true :=
    List.all_eq_true.mpr fun c hc => Nat.isDigit_of_mem_toDigits (by decide) (by decide) hc
  rw [digits?, if_pos ⟨Nat.toDigits_ne_nil, hd⟩]
  exact congrArg some Nat.ofDigitChars_ten_toDigits

theorem toList_toString (n : Nat) : (toString n).toList = Nat.toDigits 10 n := by
  rw [Nat.toString_eq_ofList_toDigits, String.toList_ofList]

theorem toList_negSucc (n : Nat) :
    (toString (Int.negSucc n)).toList = '-' :: Nat.toDigits 10 (n + 1) := by
  show ("-" ++ toString (n + 1)).toList = _
  rw [String.toList_append, toList_toString]
  rfl

/-- A number is read back from its decimal text. -/
theorem read?_toString (n : Int) : read? (toString n).toList = some n := by
  cases n with
  | ofNat n =>
    show read? (toString n).toList = _
    rw [toList_toString]
    have hd : ∀ c ∈ Nat.toDigits 10 n, c.isDigit = true := fun c hc =>
      Nat.isDigit_of_mem_toDigits (by decide) (by decide) hc
    have hx := digits?_toDigits n
    rw [read?.eq_def]
    split
    · rename_i he
      exact absurd (hd '-' (he ▸ List.mem_cons_self)) (by decide)
    · rename_i he
      exact absurd (hd '+' (he ▸ List.mem_cons_self)) (by decide)
    · rw [hx]
      rfl
  | negSucc n =>
    rw [toList_negSucc, read?, digits?_toDigits]
    rfl

theorem read?_toDigits (n : Nat) : read? (Nat.toDigits 10 n) = some n := by
  rw [← toList_toString]
  exact read?_toString n

/-- No zero comes before the other digits. -/
theorem head?_toDigits {n : Nat} (hn : n ≠ 0) : (Nat.toDigits 10 n).head? ≠ some '0' := by
  induction n using Nat.strongRecOn with
  | ind n ih =>
    rcases Nat.lt_or_ge n 10 with hlt | hge
    · rw [Nat.toDigits_of_lt_base hlt, List.head?_cons]
      exact fun h => hn (Nat.digitChar_eq_zero.mp (Option.some.inj h))
    · rw [Nat.toDigits_of_base_le (by decide) hge]
      obtain ⟨c, cs, hc⟩ := List.exists_cons_of_ne_nil (Nat.toDigits_ne_nil (n := n / 10) (b := 10))
      have hd := ih (n / 10) (by omega) (by omega)
      rw [hc] at hd ⊢
      exact hd

/-- Zero has no sign. -/
theorem toString_ne_negative_zero (n : Int) : (toString n).toList ≠ ['-', '0'] := by
  intro h
  have hx := read?_toString n
  rw [h] at hx
  cases hx
  exact absurd h (by decide)

theorem readWord?_toString {bits : Nat} {n : Int} (h : (bounds bits).1 ≤ n ∧ n ≤ (bounds bits).2) :
    readWord? bits (toString n).toList = some n := by
  rw [readWord?, readIn?, read?_toString, Option.filter_some, decide_eq_true h.1,
    decide_eq_true h.2]
  rfl

end ResultFlow.Integer
