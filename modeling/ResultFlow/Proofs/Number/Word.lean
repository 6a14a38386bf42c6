import ResultFlow.Cell
import ResultFlow.Proofs.Number.Digits
import ResultFlow.Proofs.Number.Numeral

/-!
# Whole numbers of cells

A cell is read as a signed word exactly if its text is a numeral whose value the word holds, and then
with that value: nothing wraps around at either end, and the four words agree where they overlap.

1. `Cell.Word.Holds` is the range of a word, `readWord?_eq_some_iff` what is read as one.
2. `Cell.word_eq_ok_iff` and `Cell.word_eq_error_iff` say when a cell is converted and when not.
3. Main statement: these, the decimal texts of all numbers, wider words, and NULL.
-/

namespace ResultFlow.Cell

variable {v w : Word} {s : String} {n : Int}

/-! ## Ranges -/

namespace Word

def least : Word → Int
  | byte => -128
  | short => -32768
  | integer => -2147483648
  | long => -9223372036854775808

def greatest : Word → Int
  | byte => 127
  | short => 32767
  | integer => 2147483647
  | long => 9223372036854775807

/-- A word holds the numbers of its range. -/
def Holds (w : Word) (n : Int) : Prop := w.least ≤ n ∧ n ≤ w.greatest

instance (w : Word) (n : Int) : Decidable (w.Holds n) := inferInstanceAs (Decidable (_ ∧ _))

theorem bounds_bits (w : Word) : Integer.bounds w.bits = (w.least, w.greatest) := by
  cases w <;> rfl

theorem least_le_zero (w : Word) : w.least ≤ 0 := by
  cases w <;> decide

theorem zero_le_greatest (w : Word) : 0 ≤ w.greatest := by
  cases w <;> decide

/-- A wider word holds what a narrower one holds. -/
theorem Holds.wider (hn : v.Holds n) (h : v.bits ≤ w.bits) : w.Holds n := by
  have hleast : w.least ≤ v.least := by
    revert h
    cases v <;> cases w <;> decide
  have hgreatest : v.greatest ≤ w.greatest := by
    revert h
    cases v <;> cases w <;> decide
  exact ⟨hleast.trans hn.1, hn.2.trans hgreatest⟩

theorem readWord?_eq_some_iff {cs : List Char} :
    Integer.readWord? w.bits cs = some n ↔ Numeral cs n ∧ w.Holds n := by
  unfold Integer.readWord? Integer.readIn?
  rw [bounds_bits, Option.filter_eq_some_iff, Integer.read?_eq_some_iff, Bool.and_eq_true,
    decide_eq_true_iff, decide_eq_true_iff]
  rfl

end Word

/-! ## Conversions -/

theorem word_some (w : Word) (s : String) :
    word w (some s) =
      (Integer.readWord? w.bits s.toList).elim (.error (.conversion s w.name)) .ok := by
  simp only [word]
  cases Integer.readWord? w.bits s.toList <;> rfl

theorem word_eq_ok_iff : word w (some s) = .ok n ↔ Numeral s.toList n ∧ w.Holds n := by
  rw [← Word.readWord?_eq_some_iff, word_some]
  cases Integer.readWord? w.bits s.toList with
  | none => exact ⟨nofun, nofun⟩
  | some m => rw [Option.elim_some, Except.ok.injEq, Option.some.injEq]

/-- What is not converted is reported with its text. -/
theorem word_eq_error_iff {e : Error} :
    word w (some s) = .error e ↔
      e = .conversion s w.name ∧ ∀ m, Numeral s.toList m → ¬ w.Holds m := by
  have hread : Integer.readWord? w.bits s.toList = none ↔
      ∀ m, Numeral s.toList m → ¬ w.Holds m := by
    simp only [Option.eq_none_iff_forall_ne_some, ne_eq, Word.readWord?_eq_some_iff, not_and]
  rw [← hread, word_some]
  cases Integer.readWord? w.bits s.toList with
  | none =>
    rw [Option.elim_none, Except.error.injEq]
    exact ⟨fun h => ⟨h.symm, rfl⟩, fun h => h.1.symm⟩
  | some m => exact ⟨nofun, fun h => nomatch h.2⟩

/-- The text of a number is converted back if the word holds the number. -/
theorem word_toString (w : Word) (n : Int) :
    word w (some (toString n)) =
      if w.Holds n then .ok n else .error (.conversion (toString n) w.name) := by
  have hnum : Numeral (toString n).toList n :=
    Integer.read?_eq_some_iff.mp (Integer.read?_toString n)
  split
  · rename_i hn
    exact word_eq_ok_iff.mpr ⟨hnum, hn⟩
  · rename_i hn
    refine word_eq_error_iff.mpr ⟨rfl, fun m hm => ?_⟩
    have hmn : some m = some n :=
      (Integer.read?_eq_some_iff.mpr hm).symm.trans (Integer.read?_toString n)
    rwa [Option.some.inj hmn]

theorem word_stepwise (w : Word) (s : String) :
    word w (some s) =
      (Integer.readStepwise? w.least w.greatest s.toList).elim
        (.error (.conversion s w.name)) .ok := by
  rw [word_some, Integer.readStepwise?_eq w.least_le_zero w.zero_le_greatest,
    Integer.readWord?, w.bounds_bits]

theorem optional_eq_none_iff {α : Type} {read : Reader α} {c : Cell} :
    optional read c = .ok none ↔ c = none := by
  cases c with
  | none => exact ⟨fun _ => rfl, fun _ => rfl⟩
  | some s =>
    simp only [optional]
    cases read (some s) <;> exact ⟨nofun, nofun⟩

/-! ## Main statement -/

/-- **Whole numbers are converted exactly.** Cells are converted to a word exactly if they are
numerals of its range, and to their value. The text of every number shows where the range ends; a
wider word agrees; taking in the digits one after another with a look at the bounds gives the same;
NULL is zero unless it is kept apart. -/
theorem words_exact (w : Word) (s : String) (n : Int) :
    (word w (some s) = .ok n ↔ Numeral s.toList n ∧ w.Holds n) ∧
      (∀ e, word w (some s) = .error e ↔
        e = .conversion s w.name ∧ ∀ m, Numeral s.toList m → ¬ w.Holds m) ∧
      word w (some (toString n)) =
        (if w.Holds n then .ok n else .error (.conversion (toString n) w.name)) ∧
      (∀ v : Word, w.bits ≤ v.bits → word w (some s) = .ok n → word v (some s) = .ok n) ∧
      word w (some s) =
        (Integer.readStepwise? w.least w.greatest s.toList).elim
          (.error (.conversion s w.name)) .ok ∧
      word w none = .ok 0 ∧
      (∀ c, optional (word w) c = .ok none ↔ c = none) ∧
      optional (word w) (some s) = (word w (some s)).map some := by
  refine ⟨word_eq_ok_iff, fun e => word_eq_error_iff, word_toString w n, fun v hv hs => ?_,
    word_stepwise w s, rfl, fun c => optional_eq_none_iff, rfl⟩
  obtain ⟨hnum, hn⟩ := word_eq_ok_iff.mp hs
  exact word_eq_ok_iff.mpr ⟨hnum, hn.wider hv⟩

/-- The least byte has no positive counterpart; every wider word reads both. -/
theorem words_exact_least_byte :
    word .byte (some (toString (-128 : Int))) = .ok (-128) ∧
      word .byte (some (toString (128 : Int))) = .error (.conversion (toString (128 : Int)) "byte") ∧
      word .long (some (toString (-128 : Int))) = .ok (-128) := by
  have hleast := (words_exact .byte (toString (-128 : Int)) (-128)).2.2.1.trans
    (if_pos (by decide))
  have hover := (words_exact .byte "" 128).2.2.1.trans (if_neg (by decide))
  exact ⟨hleast, hover,
    (words_exact .byte (toString (-128 : Int)) (-128)).2.2.2.1 .long (by decide) hleast⟩

end ResultFlow.Cell
