import ResultFlow.Number.Binary

/-!
# Numbers in decimal text

A whole number is written as an optional single sign followed by one or more ASCII digits, with any
number of leading zeros: `Integer.read?` gives its exact value, `Integer.readIn?` only a value within
bounds. A floating-point number is written as an optional sign, then one of `inf`, `infinity` and
`nan` in any case, or digits with an optional point and an optional exponent. At least one digit
stands before the exponent, on either side of the point, and at least one in the exponent.
-/

namespace ResultFlow

namespace Integer

/-- The value of a decimal digit. -/
def digitValue (c : Char) : Nat := c.toNat - '0'.toNat

/-- The value of a run of digits that follows digits worth `n`. -/
def valueFrom (n : Nat) (cs : List Char) : Nat :=
  cs.foldl (fun n c => 10 * n + digitValue c) n

/-- The value of a non-empty run of digits. -/
def digits? (cs : List Char) : Option Nat :=
  if cs ≠ [] ∧ cs.all Char.isDigit then some (valueFrom 0 cs) else none

/-- The value of a whole number, of any length. -/
def read? : List Char → Option Int
  | '-' :: cs => (digits? cs).map fun n => -(n : Int)
  | '+' :: cs => (digits? cs).map Int.ofNat
  | cs => (digits? cs).map Int.ofNat

/-- The value of a whole number that lies between `lo` and `hi`, ends included. -/
def readIn? (lo hi : Int) (cs : List Char) : Option Int :=
  (read? cs).filter fun n => lo ≤ n && n ≤ hi

/-- The least and the greatest number of a signed word of `bits` bits. -/
def bounds (bits : Nat) : Int × Int :=
  (-(Nat.pow 2 (bits - 1) : Nat), (Nat.pow 2 (bits - 1) : Nat) - 1)

/-- The value of a whole number that fits a signed word of `bits` bits. -/
def readWord? (bits : Nat) (cs : List Char) : Option Int :=
  readIn? (bounds bits).1 (bounds bits).2 cs

end Integer

namespace Decimal

/-- A number as written, without its sign. -/
inductive Magnitude
  | infinity
  | nan
  /-- The number `mantissa * 10 ^ exponent`. -/
  | finite (mantissa : Nat) (exponent : Int)
  deriving DecidableEq

/-- The exponent at the end of a number; none is zero. -/
def exponent? : List Char → Option Int
  | [] => some 0
  | c :: cs => if c = 'e' ∨ c = 'E' then Integer.read? cs else none

/-- Digits with an optional point and an optional exponent. -/
def finite? (cs : List Char) : Option Magnitude :=
  let whole := cs.takeWhile Char.isDigit
  let afterWhole := cs.dropWhile Char.isDigit
  let (fraction, tail) := match afterWhole with
    | '.' :: r => (r.takeWhile Char.isDigit, r.dropWhile Char.isDigit)
    | r => ([], r)
  if whole = [] ∧ fraction = [] then none
  else (exponent? tail).map fun e =>
    .finite (Integer.valueFrom 0 (whole ++ fraction)) (e - fraction.length)

/-- A number without a sign. -/
def magnitude? (cs : List Char) : Option Magnitude :=
  let word := cs.map Char.toLower
  if word = "inf".toList ∨ word = "infinity".toList then some .infinity
  else if word = "nan".toList then some .nan
  else finite? cs

/-- A number with an optional sign; `true` stands for a minus. -/
def read? : List Char → Option (Bool × Magnitude)
  | '-' :: cs => (magnitude? cs).map (true, ·)
  | '+' :: cs => (magnitude? cs).map (false, ·)
  | cs => (magnitude? cs).map (false, ·)

/-- The bit pattern of a magnitude in a binary format. -/
def Magnitude.bits (f : Binary.Format) : Magnitude → Nat
  | .infinity => f.infinity
  | .nan => f.infinity + Nat.pow 2 (f.precision - 2)
  | .finite m e => f.nearestDecimal m e

/-- The bit pattern of the written number in a binary format, rounded once. -/
def bits? (f : Binary.Format) (cs : List Char) : Option Nat :=
  (read? cs).map fun (negative, m) => (if negative then f.sign else 0) + m.bits f

end Decimal

end ResultFlow
