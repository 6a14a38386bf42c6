import Mathlib.Data.Nat.Digits.Defs
import ResultFlow.Number.Decimal

/-!
# Numerals

A numeral is an optional sign and one or more decimal digits; leading zeros count for nothing. Reading
a whole number accepts exactly the numerals, with their value (`read?_eq_some_iff`). And a reading
that takes in one digit at a time, and gives up where the value leaves some bounds around zero, is
as good as one that looks at the bounds once at the end (`readStepwise?_eq`): with every digit the
value only moves away from zero, so once out of bounds it stays out.
-/

namespace ResultFlow

/-! ## Digits -/

/-- The character of a decimal digit. -/
def digit (d : Fin 10) : Char := Nat.digitChar d

/-- The value of decimal digits, of which the last counts the units. -/
def decimal (ds : List (Fin 10)) : Nat := Nat.ofDigits 10 (ds.reverse.map Fin.val)

@[simp] theorem digit_isDigit (d : Fin 10) : (digit d).isDigit = true := by
  unfold digit
  rw [Nat.isDigit_digitChar]
  exact decide_eq_true d.isLt

/-- Every digit character is that of a digit. -/
theorem exists_digit {c : Char} (h : c.isDigit = true) : ∃ d, c = digit d := by
  obtain ⟨hlo, hhi⟩ := Char.isDigit_iff_toNat.mp h
  have hlo : 48 ≤ c.toNat := hlo
  have hhi : c.toNat ≤ 57 := hhi
  have hlt : c.toNat - 48 < 10 := by omega
  refine ⟨⟨c.toNat - 48, hlt⟩, Char.toNat_inj.mp ?_⟩
  show c.toNat = (Nat.digitChar (c.toNat - 48)).toNat
  rw [Nat.toNat_digitChar_of_lt_ten hlt]
  omega

theorem exists_digits {cs : List Char} (h : cs.all Char.isDigit = true) :
    ∃ ds : List (Fin 10), cs = ds.map digit := by
  induction cs with
  | nil => exact ⟨[], rfl⟩
  | cons c cs ih =>
    rw [List.all_cons, Bool.and_eq_true] at h
    obtain ⟨d, rfl⟩ := exists_digit h.1
    obtain ⟨ds, rfl⟩ := ih h.2
    exact ⟨d :: ds, rfl⟩

theorem all_isDigit (ds : List (Fin 10)) : (ds.map digit).all Char.isDigit = true := by
  rw [List.all_map, List.all_eq_true]
  exact fun d _ => digit_isDigit d

theorem decimal_cons (d : Fin 10) (ds : List (Fin 10)) :
    decimal (d :: ds) = d * 10 ^ ds.length + decimal ds := by
  unfold decimal
  rw [List.reverse_cons, List.map_append, Nat.ofDigits_append, List.length_map, List.length_reverse,
    List.map_singleton, Nat.ofDigits_singleton, Nat.mul_comm, Nat.add_comm]

/-! ## Numerals -/

/-- The sign before the digits of a numeral. -/
inductive Sign
  | unsigned
  | plus
  | minus

namespace Sign

def text : Sign → List Char
  | unsigned => []
  | plus => ['+']
  | minus => ['-']

/-- The value of digits after the sign. -/
def apply : Sign → Nat → Int
  | unsigned, n | plus, n => n
  | minus, n => -n

end Sign

/-- A text is a numeral of a value. -/
def Numeral (cs : List Char) (n : Int) : Prop :=
  ∃ (sign : Sign) (ds : List (Fin 10)), ds ≠ [] ∧ cs = sign.text ++ ds.map digit ∧
    n = sign.apply (decimal ds)

namespace Integer

@[simp] theorem digitValue_digit (d : Fin 10) : digitValue (digit d) = d := by
  revert d
  decide

/-- Digits that follow others move these to the left. -/
theorem valueFrom_digits (n : Nat) (ds : List (Fin 10)) :
    valueFrom n (ds.map digit) = n * 10 ^ ds.length + decimal ds := by
  induction ds generalizing n with
  | nil => simp [valueFrom, decimal]
  | cons d ds ih =>
    have hstep : valueFrom n ((d :: ds).map digit) = valueFrom (10 * n + d) (ds.map digit) := by
      simp [valueFrom]
    rw [hstep, ih, decimal_cons, List.length_cons, pow_succ]
    ring

theorem digits?_digits {ds : List (Fin 10)} (h : ds ≠ []) :
    digits? (ds.map digit) = some (decimal ds) := by
  rw [digits?, if_pos ⟨mt List.map_eq_nil_iff.mp h, all_isDigit ds⟩, valueFrom_digits,
    Nat.zero_mul, Nat.zero_add]

theorem digits?_eq_some_iff {cs : List Char} {n : Nat} :
    digits? cs = some n ↔ ∃ ds : List (Fin 10), ds ≠ [] ∧ cs = ds.map digit ∧ n = decimal ds := by
  constructor
  · intro h
    unfold digits? at h
    split at h
    · rename_i hd
      obtain ⟨ds, rfl⟩ := exists_digits hd.2
      have hne : ds ≠ [] := fun hn => hd.1 (congrArg (List.map digit) hn)
      rw [valueFrom_digits, Nat.zero_mul, Nat.zero_add] at h
      exact ⟨ds, hne, rfl, (Option.some.inj h).symm⟩
    · cases h
  · rintro ⟨ds, hne, rfl, rfl⟩
    exact digits?_digits hne

/-- Digits have no sign before them. -/
theorem read?_digits (ds : List (Fin 10)) :
    read? (ds.map digit) = (digits? (ds.map digit)).map Int.ofNat := by
  rw [read?.eq_def]
  split
  · rename_i cs he
    have hd := all_isDigit ds
    rw [he] at hd
    cases hd
  · rename_i cs he
    have hd := all_isDigit ds
    rw [he] at hd
    cases hd
  · rfl

theorem read?_minus (cs : List Char) :
    read? ('-' :: cs) = (digits? cs).map fun m : Nat => -(m : Int) := by
  rw [read?]
  cases digits? cs <;> rfl

/-- Whole numbers are read from numerals and from nothing else. -/
theorem read?_eq_some_iff {cs : List Char} {n : Int} : read? cs = some n ↔ Numeral cs n := by
  constructor
  · intro h
    rw [read?.eq_def] at h
    split at h
    · obtain ⟨m, hm, rfl⟩ := Option.map_eq_some_iff.mp ((read?_minus _).symm.trans h)
      obtain ⟨ds, hne, rfl, rfl⟩ := digits?_eq_some_iff.mp hm
      exact ⟨.minus, ds, hne, rfl, rfl⟩
    · obtain ⟨m, hm, rfl⟩ := Option.map_eq_some_iff.mp h
      obtain ⟨ds, hne, rfl, rfl⟩ := digits?_eq_some_iff.mp hm
      exact ⟨.plus, ds, hne, rfl, rfl⟩
    · obtain ⟨m, hm, rfl⟩ := Option.map_eq_some_iff.mp h
      obtain ⟨ds, hne, rfl, rfl⟩ := digits?_eq_some_iff.mp hm
      exact ⟨.unsigned, ds, hne, rfl, rfl⟩
  · rintro ⟨sign, ds, hne, rfl, rfl⟩
    have hd := digits?_digits hne
    cases sign with
    | unsigned =>
      refine (read?_digits ds).trans ?_
      rw [hd]
      rfl
    | plus =>
      show (digits? (ds.map digit)).map Int.ofNat = _
      rw [hd]
      rfl
    | minus =>
      refine (read?_minus (ds.map digit)).trans ?_
      rw [hd]
      rfl

/-! ## One digit at a time -/

/-- A value that lies between two bounds. -/
def within? (lo hi n : Int) : Option Int := if lo ≤ n ∧ n ≤ hi then some n else none

/-- Takes in one more digit, downwards after a minus, with a look at the bounds after each operation. -/
def push? (lo hi : Int) (down : Bool) (n : Int) (c : Char) : Option Int :=
  if c.isDigit then
    (within? lo hi (10 * n)).bind fun m =>
      within? lo hi (if down then m - digitValue c else m + digitValue c)
  else none

/-- Takes in all digits, of which there is at least one. -/
def pushAll? (lo hi : Int) (down : Bool) (cs : List Char) : Option Int :=
  if cs = [] then none else cs.foldlM (push? lo hi down) 0

/-- The value of a whole number, if it stays between the bounds with every digit. -/
def readStepwise? (lo hi : Int) : List Char → Option Int
  | '-' :: cs => pushAll? lo hi true cs
  | '+' :: cs => pushAll? lo hi false cs
  | cs => pushAll? lo hi false cs

/-- A number on one side of zero. -/
def directed (down : Bool) (n : Nat) : Int := if down then -(n : Int) else n

variable {lo hi : Int}

theorem within?_eq_some {m n : Int} (h : within? lo hi n = some m) : m = n := by
  unfold within? at h
  split at h
  · exact (Option.some.inj h).symm
  · cases h

/-- What is nearer to zero than a value between the bounds is between them too. -/
theorem within?_mono (hlo : lo ≤ 0) (hhi : 0 ≤ hi) {down : Bool} {m n : Nat} (hmn : m ≤ n)
    (h : within? lo hi (directed down m) = none) : within? lo hi (directed down n) = none := by
  unfold within? at h ⊢
  rw [if_neg]
  intro hn
  refine Option.some_ne_none (directed down m) ((if_pos ?_).symm.trans h)
  unfold directed at hn ⊢
  cases down with
  | true =>
    simp only [if_true] at hn ⊢
    omega
  | false =>
    simp only [Bool.false_eq_true, if_false] at hn ⊢
    omega

theorem push?_directed (hlo : lo ≤ 0) (hhi : 0 ≤ hi) (down : Bool) (n : Nat) (c : Char) :
    push? lo hi down (directed down n) c =
      if c.isDigit then within? lo hi (directed down (10 * n + digitValue c)) else none := by
  have htens : 10 * directed down n = directed down (10 * n) := by
    cases down <;> simp [directed]
  have hunits : (if down then directed down (10 * n) - digitValue c
      else directed down (10 * n) + digitValue c) = directed down (10 * n + digitValue c) := by
    cases down <;> simp [directed]
    omega
  unfold push?
  rw [htens]
  split
  · cases hm : within? lo hi (directed down (10 * n)) with
    | none => exact (within?_mono hlo hhi (Nat.le_add_right _ _) hm).symm
    | some m => rw [Option.bind_some, within?_eq_some hm, hunits]
  · rfl

theorem le_valueFrom (n : Nat) (cs : List Char) : n ≤ valueFrom n cs := by
  induction cs generalizing n with
  | nil => exact Nat.le_refl n
  | cons c cs ih =>
    have hstep : 10 * n + digitValue c ≤ valueFrom n (c :: cs) := ih (10 * n + digitValue c)
    omega

/-- Digits taken in one after another give the value of all of them, if it is between the bounds. -/
theorem foldlM_push? (hlo : lo ≤ 0) (hhi : 0 ≤ hi) (down : Bool) (n : Nat) (cs : List Char)
    (hn : within? lo hi (directed down n) = some (directed down n)) :
    cs.foldlM (push? lo hi down) (directed down n) =
      if cs.all Char.isDigit then within? lo hi (directed down (valueFrom n cs)) else none := by
  induction cs generalizing n with
  | nil => exact hn.symm
  | cons c cs ih =>
    rw [List.foldlM_cons, push?_directed hlo hhi, List.all_cons]
    cases c.isDigit with
    | false => rfl
    | true =>
      rw [if_pos rfl, Bool.true_and]
      have hstep : valueFrom n (c :: cs) = valueFrom (10 * n + digitValue c) cs := rfl
      rw [hstep]
      cases hm : within? lo hi (directed down (10 * n + digitValue c)) with
      | none =>
        rw [within?_mono hlo hhi (le_valueFrom _ cs) hm, ite_self]
        rfl
      | some m =>
        obtain rfl := within?_eq_some hm
        exact ih _ hm

theorem pushAll?_eq (hlo : lo ≤ 0) (hhi : 0 ≤ hi) (down : Bool) (cs : List Char) :
    pushAll? lo hi down cs = (digits? cs).bind fun n => within? lo hi (directed down n) := by
  have hzero : directed down 0 = 0 := by
    cases down <;> rfl
  have hstart : within? lo hi (directed down 0) = some (directed down 0) := by
    rw [hzero]
    exact if_pos ⟨hlo, hhi⟩
  have hfold := foldlM_push? hlo hhi down 0 cs hstart
  rw [hzero] at hfold
  unfold pushAll? digits?
  by_cases hne : cs = []
  · rw [if_pos hne, if_neg fun h => h.1 hne]
    rfl
  · rw [if_neg hne, hfold]
    by_cases hd : cs.all Char.isDigit = true
    · rw [if_pos hd, if_pos ⟨hne, hd⟩]
      rfl
    · rw [if_neg hd, if_neg fun h => hd h.2]
      rfl

theorem readIn?_eq (lo hi : Int) (cs : List Char) :
    readIn? lo hi cs = (read? cs).bind (within? lo hi) := by
  unfold readIn?
  cases read? cs with
  | none => rfl
  | some n =>
    rw [Option.filter_some, Option.bind_some]
    unfold within?
    simp only [Bool.and_eq_true, decide_eq_true_eq]

/-- Looking at the bounds with every digit finds what looking at them once does. -/
theorem readStepwise?_eq (hlo : lo ≤ 0) (hhi : 0 ≤ hi) (cs : List Char) :
    readStepwise? lo hi cs = readIn? lo hi cs := by
  rw [readIn?_eq, readStepwise?.eq_def]
  split
  · rw [read?_minus, pushAll?_eq hlo hhi, Option.bind_map]
    rfl
  · rw [read?, pushAll?_eq hlo hhi, Option.bind_map]
    rfl
  · rename_i hminus hplus
    rw [read?.eq_3 _ hminus hplus, pushAll?_eq hlo hhi, Option.bind_map]
    rfl

end Integer

end ResultFlow
