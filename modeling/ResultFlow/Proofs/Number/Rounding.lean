import ResultFlow.Number.Binary

/-!
# Rounding keeps the order

What a double keeps of a whole number lies between the powers of two around it, and of two whole
numbers the greater is never taken for the smaller (`wholeDouble_mono`).
-/

namespace ResultFlow.Binary

/-! ## Quotients -/

/-- A quotient is not rounded below its whole part. -/
theorem le_roundQuotient (num den : Nat) : num / den ≤ roundQuotient num den := by
  unfold roundQuotient
  dsimp only
  repeat' split
  all_goals omega

/-- A quotient is not rounded above the whole number after it. -/
theorem roundQuotient_le (num den : Nat) : roundQuotient num den ≤ num / den + 1 := by
  unfold roundQuotient
  dsimp only
  repeat' split
  all_goals omega

/-- A quotient without remainder is exact. -/
theorem roundQuotient_mul (a : Nat) {den : Nat} (hd : 0 < den) :
    roundQuotient (a * den) den = a := by
  unfold roundQuotient
  dsimp only
  rw [Nat.mul_mod_left, Nat.mul_div_cancel a hd, if_pos (by omega)]

theorem roundQuotient_mono {m n den : Nat} (h : m ≤ n) :
    roundQuotient m den ≤ roundQuotient n den := by
  have hq : m / den ≤ n / den := Nat.div_le_div_right h
  rcases Nat.lt_or_eq_of_le hq with hlt | heq
  · calc roundQuotient m den ≤ m / den + 1 := roundQuotient_le ..
      _ ≤ n / den := hlt
      _ ≤ roundQuotient n den := le_roundQuotient ..
  · -- with one whole part the remainders decide
    have hr : m % den ≤ n % den := by
      have hm := Nat.div_add_mod m den
      have hn := Nat.div_add_mod n den
      rw [heq] at hm
      omega
    unfold roundQuotient
    dsimp only
    rw [heq]
    repeat' split
    all_goals omega

/-! ## Whole numbers -/

/-- The power of two below a whole number is below what a double keeps of it. -/
theorem two_pow_log2_le_wholeDouble {n : Nat} (hn : n ≠ 0) : Nat.pow 2 n.log2 ≤ wholeDouble n := by
  have hk : 0 < Nat.pow 2 (n.log2 - 52) := Nat.two_pow_pos _
  have he : Nat.pow 2 (n.log2 - (n.log2 - 52)) * Nat.pow 2 (n.log2 - 52) = Nat.pow 2 n.log2 :=
    Nat.pow_sub_mul_pow 2 (Nat.sub_le ..)
  calc Nat.pow 2 n.log2
      = roundQuotient (Nat.pow 2 n.log2) (Nat.pow 2 (n.log2 - 52)) * Nat.pow 2 (n.log2 - 52) := by
        rw [← he, roundQuotient_mul _ hk]
    _ ≤ wholeDouble n := Nat.mul_le_mul_right _ (roundQuotient_mono (Nat.log2_self_le hn))

/-- The power of two above a whole number is above what a double keeps of it. -/
theorem wholeDouble_le_two_pow (n : Nat) : wholeDouble n ≤ Nat.pow 2 (n.log2 + 1) := by
  have hk : 0 < Nat.pow 2 (n.log2 - 52) := Nat.two_pow_pos _
  have he : Nat.pow 2 (n.log2 + 1 - (n.log2 - 52)) * Nat.pow 2 (n.log2 - 52) = Nat.pow 2 (n.log2 + 1) :=
    Nat.pow_sub_mul_pow 2 (by omega)
  calc wholeDouble n
      ≤ roundQuotient (Nat.pow 2 (n.log2 + 1)) (Nat.pow 2 (n.log2 - 52)) * Nat.pow 2 (n.log2 - 52) :=
        Nat.mul_le_mul_right _ (roundQuotient_mono (Nat.le_of_lt Nat.lt_log2_self))
    _ = Nat.pow 2 (n.log2 + 1) := by rw [← he, roundQuotient_mul _ hk]

/-- Doubles keep the order of whole numbers. -/
theorem wholeDouble_mono {m n : Nat} (h : m ≤ n) : wholeDouble m ≤ wholeDouble n := by
  by_cases hm : m = 0
  · subst hm
    exact Nat.zero_le _
  have hn : n ≠ 0 := by omega
  have hlog : m.log2 ≤ n.log2 :=
    (Nat.le_log2 hn).mpr (Nat.le_trans (Nat.log2_self_le hm) h)
  rcases Nat.lt_or_eq_of_le hlog with hlt | heq
  · calc wholeDouble m ≤ Nat.pow 2 (m.log2 + 1) := wholeDouble_le_two_pow m
      _ ≤ Nat.pow 2 n.log2 := Nat.pow_le_pow_right (by decide) hlt
      _ ≤ wholeDouble n := two_pow_log2_le_wholeDouble hn
  · unfold wholeDouble
    dsimp only
    rw [heq]
    exact Nat.mul_le_mul_right _ (roundQuotient_mono h)

/-- A double does not lose a positive whole number. -/
theorem wholeDouble_pos {n : Nat} (h : 1 ≤ n) : 1 ≤ wholeDouble n :=
  Nat.le_trans (Nat.two_pow_pos _) (two_pow_log2_le_wholeDouble (by omega))

/-! ## Integers -/

theorem integerDouble_nonpos {n : Int} (h : n ≤ 0) : integerDouble n ≤ 0 := by
  unfold integerDouble
  split
  · have : n = 0 := by omega
    subst this
    decide
  · omega

/-- Doubles keep the order of a whole number and an integer. -/
theorem wholeDouble_le_integerDouble {m : Nat} {n : Int} (h : (m : Int) ≤ n) :
    (wholeDouble m : Int) ≤ integerDouble n := by
  unfold integerDouble
  rw [if_pos (by omega)]
  exact Int.ofNat_le.mpr (wholeDouble_mono (by omega))

end ResultFlow.Binary
