import ResultFlow.Proofs.Calendar.Format

/-!
# The numbers of a date

Dates and times are written with numbers that zeros fill up to a width, and a fraction of a second.

1. In front of anything but a digit, `number?` takes as many digits as its width allows
   (`number?_digits`), and of a longer number it leaves digits, where no separator is found
   (`surplus_eq_nil_iff`, `after?_digits`).
2. Each field is read back from its text (`field?_year`, `field?_part`, `field?_fraction`).
-/

namespace ResultFlow.Calendar

open Text (isBlank trimLeft)

variable {width n : Nat} {c : Char} {p : Part} {ds rest : List Char}

/-! ## Runs of digits -/

theorem trimLeft_digits (hne : ds ≠ []) (hd : ∀ c ∈ ds, c.isDigit = true) :
    trimLeft (ds ++ rest) = ds ++ rest :=
  trimLeft_append [] nofun (takeWhile_isBlank_digits hne hd)

/-- A number before anything but a digit has all digits that its width allows. -/
theorem number?_digits (hw : 0 < width) (hne : ds ≠ []) (hd : ∀ c ∈ ds, c.isDigit = true)
    (hr : rest.takeWhile Char.isDigit = []) :
    number? (some width) (ds ++ rest) =
      some (Integer.valueFrom 0 (ds.take width), ds.drop width ++ rest) := by
  refine number?_eq_some_iff.mpr ⟨ds.take width, ⟨?_, ?_, ?_, ?_⟩, ?_, rfl⟩
  · rw [ne_eq, List.take_eq_nil_iff, not_or]
    exact ⟨hw.ne', hne⟩
  · exact fun c hc => hd c (List.mem_of_mem_take hc)
  · intro w h
    cases h
    exact List.length_take_le width ds
  · rcases Nat.le_total width ds.length with h | h
    · exact .inl ⟨width, rfl, List.length_take_of_le h⟩
    · rw [List.drop_eq_nil_of_le h]
      exact .inr hr
  · rw [← List.append_assoc, List.take_append_drop]

theorem after?_self (c : Char) (rest : List Char) : after? c (c :: rest) = some rest := if_pos rfl

/-- A separator is not found behind further digits. -/
theorem after?_digits (hd : ∀ c ∈ ds, c.isDigit = true) (hc : c.isDigit = false)
    (rest : List Char) : after? c (ds ++ rest) = if ds = [] then after? c rest else none := by
  cases ds with
  | nil => exact (if_pos rfl).symm
  | cons d ds =>
    rw [if_neg (List.cons_ne_nil d ds)]
    refine if_neg ?_
    rintro rfl
    exact absurd (hd d List.mem_cons_self) (by rw [hc]; exact Bool.false_ne_true)

/-! ## Filled up numbers -/

/-- The decimal text of a number, with zeros in front of it up to a width. -/
def padded (width n : Nat) : List Char := (Nat.toDigits 10 n).leftpad width '0'

/-- The digits of a number that is too long for a width. -/
def surplus (width n : Nat) : List Char := (padded width n).drop width

/-- The value of the digits of a number within a width. -/
def leading (width n : Nat) : Nat := Integer.valueFrom 0 ((padded width n).take width)

theorem isDigit_of_mem_padded (h : c ∈ padded width n) : c.isDigit = true := by
  rcases List.mem_append.mp h with h | h
  · rw [List.eq_of_mem_replicate h]
    rfl
  · exact Nat.isDigit_of_mem_toDigits (by decide) (by decide) h

theorem isDigit_of_mem_surplus (h : c ∈ surplus width n) : c.isDigit = true :=
  isDigit_of_mem_padded (List.mem_of_mem_drop h)

theorem padded_ne_nil (width n : Nat) : padded width n ≠ [] :=
  List.append_ne_nil_of_right_ne_nil _ Nat.toDigits_ne_nil

theorem length_padded_le_iff (hw : 0 < width) :
    (padded width n).length ≤ width ↔ n < 10 ^ width := by
  rw [padded, List.length_leftpad, Nat.max_le, Nat.length_toDigits_le_iff (by decide) hw]
  exact and_iff_right (Nat.le_refl width)

theorem surplus_eq_nil_iff (hw : 0 < width) : surplus width n = [] ↔ n < 10 ^ width := by
  rw [surplus, List.drop_eq_nil_iff, length_padded_le_iff hw]

theorem valueFrom_zeros (k : Nat) : Integer.valueFrom 0 (List.replicate k '0') = 0 := by
  induction k with
  | zero => rfl
  | succ k ih => exact ih

/-- Zeros in front of a number do not change it. -/
theorem valueFrom_padded (width n : Nat) : Integer.valueFrom 0 (padded width n) = n := by
  have happend : Integer.valueFrom 0 (padded width n) =
      Integer.valueFrom (Integer.valueFrom 0 (List.replicate _ '0')) (Nat.toDigits 10 n) :=
    List.foldl_append
  rw [happend, valueFrom_zeros]
  exact Nat.ofDigitChars_ten_toDigits

theorem leading_eq_self (hw : 0 < width) (hn : n < 10 ^ width) : leading width n = n := by
  rw [leading, List.take_of_length_le ((length_padded_le_iff hw).mpr hn), valueFrom_padded]

/-! ## Fields -/

/-- A year of four digits is read back. -/
theorem field?_year (hn : n < 10 ^ 4) (hr : rest.takeWhile Char.isDigit = []) :
    field? .year (padded 4 n ++ rest) = some ((n : Int), rest) := by
  have hd : Digits (some 4) (padded 4 n) rest := by
    refine ⟨padded_ne_nil 4 n, fun _ => isDigit_of_mem_padded, ?_, .inr hr⟩
    intro w hw
    cases hw
    exact (length_padded_le_iff (by decide)).mpr hn
  have hyear : FieldAt .year ([] ++ (padded 4 n ++ rest)) (Integer.valueFrom 0 (padded 4 n)) rest :=
    .year nofun hd
  rw [valueFrom_padded] at hyear
  exact field?_eq_some_iff.mpr hyear

/-- Of a run of digits the first two are read, if they are within bounds. -/
theorem field?_digits (p : Part) (hne : ds ≠ []) (hd : ∀ c ∈ ds, c.isDigit = true)
    (hr : rest.takeWhile Char.isDigit = []) :
    field? (.part p) (ds ++ rest) =
      if p.fits (Integer.valueFrom 0 (ds.take 2)) then
        some ((Integer.valueFrom 0 (ds.take 2) : Int), ds.drop 2 ++ rest)
      else none := by
  show part? p (trimLeft (ds ++ rest)) = _
  rw [trimLeft_digits hne hd, part?, number?_digits Nat.two_pos hne hd hr]
  rfl

theorem field?_part (p : Part) (n : Nat) (hr : rest.takeWhile Char.isDigit = []) :
    field? (.part p) (padded 2 n ++ rest) =
      if p.fits (leading 2 n) then some ((leading 2 n : Int), surplus 2 n ++ rest) else none :=
  field?_digits p (padded_ne_nil 2 n) (fun _ => isDigit_of_mem_padded) hr

/-- A number of two digits within bounds is read back. -/
theorem field?_part_of_le (hn : n < 10 ^ 2) (hb : p.fits n = true)
    (hr : rest.takeWhile Char.isDigit = []) :
    field? (.part p) (padded 2 n ++ rest) = some ((n : Int), rest) := by
  rw [field?_part p n hr, leading_eq_self Nat.two_pos hn, (surplus_eq_nil_iff Nat.two_pos).mpr hn,
    if_pos hb, List.nil_append]

/-! ## Fractions -/

/-- A fraction of a second as it is written, without its point if there are no digits. -/
def fractionText (fraction : List (Fin 10)) : List Char :=
  if fraction = [] then [] else '.' :: fraction.map digit

theorem takeWhile_fractionText (fraction : List (Fin 10)) :
    (fractionText fraction).takeWhile Char.isDigit = [] := by
  unfold fractionText
  split <;> rfl

/-- The number of nanoseconds: the value of the fraction with zeros after it up to nine digits. -/
def nanoseconds (fraction : List (Fin 10)) : Nat := decimal (fraction.rightpad 9 0)

theorem decimal_zeros (k : Nat) : decimal (List.replicate k 0) = 0 := by
  induction k with
  | zero => rfl
  | succ k ih => rw [List.replicate_succ, decimal_cons, ih, Fin.val_zero, Nat.zero_mul]

/-- Each zero behind digits multiplies their value by ten. -/
theorem decimal_append_zeros (fraction : List (Fin 10)) (k : Nat) :
    decimal (fraction ++ List.replicate k 0) = decimal fraction * 10 ^ k := by
  induction fraction with
  | nil => exact (decimal_zeros k).trans (Nat.zero_mul _).symm
  | cons d fraction ih =>
    rw [List.cons_append, decimal_cons, decimal_cons, ih, List.length_append, List.length_replicate,
      Nat.add_mul, pow_add, Nat.mul_assoc]

theorem nanoseconds_eq (fraction : List (Fin 10)) :
    nanoseconds fraction = decimal fraction * 10 ^ (9 - fraction.length) :=
  decimal_append_zeros fraction _

/-- A fraction of up to nine digits is read back as nanoseconds. -/
theorem field?_fraction {fraction : List (Fin 10)} (h : fraction.length ≤ 9) :
    field? .fraction (fractionText fraction) = some ((nanoseconds fraction : Int), []) := by
  refine field?_eq_some_iff.mpr ?_
  unfold fractionText
  split
  · rename_i hnil
    rw [hnil]
    exact .no_fraction nofun
  · rename_i hne
    have hd : Digits none (fraction.map digit) [] :=
      ⟨mt List.map_eq_nil_iff.mp hne, List.all_eq_true.mp (all_isDigit fraction), nofun, .inr rfl⟩
    have hkept : (fraction.map digit).take 9 = fraction.map digit :=
      List.take_of_length_le (by rwa [List.length_map])
    have hnanos : nanos (fraction.map digit) = nanoseconds fraction := by
      rw [nanos, hkept, nanoseconds_eq, List.length_map, Integer.valueFrom_digits, Nat.zero_mul,
        Nat.zero_add]
      rfl
    have hat := FieldAt.fraction hd
    rwa [List.append_nil, hnanos] at hat

end ResultFlow.Calendar
