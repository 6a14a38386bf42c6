import ResultFlow.Number.Binary

/-!
# The shortest decimal of a floating-point number

The digits of a number are the fewest that read back as the same number; of several, the nearest.
The reals that round to `m * 2 ^ q` form an interval, and for each count of digits only the two
neighbours of the number on that decimal grid can lie in it first.
-/

namespace ResultFlow.Shortest

/-- The number `numerator / denominator`, with the bounds of the reals that round to it over the
same denominator; the bounds belong to the interval when `closed`. -/
structure Interval where
  value : Nat
  low : Nat
  high : Nat
  denominator : Nat
  closed : Bool

/-- Whether `n * 10 ^ e` rounds back to the number. -/
def Interval.holds (i : Interval) (n : Nat) (e : Int) : Bool :=
  let (a, d) := if 0 ≤ e then (n * Nat.pow 10 e.toNat, 1) else (n, Nat.pow 10 (-e).toNat)
  let x := a * i.denominator
  if i.closed then i.low * d ≤ x && x ≤ i.high * d else i.low * d < x && x < i.high * d

/-- The interval of `m * 2 ^ q`; below a power of two the gap is half as wide, unless the number is
among the smallest. -/
def interval (m : Nat) (q : Int) (halved : Bool) : Interval :=
  let k := q - 2
  let s := if 0 ≤ k then Nat.pow 2 k.toNat else 1
  { value := 4 * m * s
    low := (4 * m - if halved then 1 else 2) * s
    high := (4 * m + 2) * s
    denominator := if 0 ≤ k then 1 else Nat.pow 2 (-k).toNat
    closed := m % 2 = 0 }

/-- The value counted in units of `10 ^ e`, rounded down. -/
def Interval.floorAt (i : Interval) (e : Int) : Nat :=
  if 0 ≤ e then i.value / (i.denominator * Nat.pow 10 e.toNat)
  else i.value * Nat.pow 10 (-e).toNat / i.denominator

/-- Whether the value lies nearer to `n * 10 ^ e` than to `(n + 1) * 10 ^ e`, or midway with `n`
even. -/
def Interval.nearFloor (i : Interval) (n : Nat) (e : Int) : Bool :=
  let (a, d) := if 0 ≤ e then (2 * i.value, i.denominator * Nat.pow 10 e.toNat)
    else (2 * i.value * Nat.pow 10 (-e).toNat, i.denominator)
  let middle := (2 * n + 1) * d
  a < middle || (a = middle && n % 2 = 0)

/-- The decimal on the grid `10 ^ e` that rounds back to the number, if there is one. -/
def Interval.onGrid (i : Interval) (e : Int) : Option Nat :=
  let n := i.floorAt e
  match i.holds n e && n ≠ 0, i.holds (n + 1) e with
  | true, true => some (if i.nearFloor n e then n else n + 1)
  | true, false => some n
  | false, true => some (n + 1)
  | false, false => none

/-- The first grid from `10 ^ e` downwards with a decimal that rounds back. -/
def Interval.search (i : Interval) : Nat → Int → Nat × Int
  | 0, e => (i.floorAt e, e)
  | fuel + 1, e => match i.onGrid e with
    | some n => (n, e)
    | none => i.search fuel (e - 1)

/-- The decimal exponent of the leading digit of the value. -/
def Interval.leading (i : Interval) : Int :=
  let whole := i.value / i.denominator
  if 0 < whole then ((Nat.toDigits 10 whole).length : Int) - 1
  else
    let scaled := i.value * Nat.pow 10 60 / i.denominator
    ((Nat.toDigits 10 scaled).length : Int) - 61

/-- The shortest digits `n` and exponent `e` of a positive number, as `n * 10 ^ e`. -/
def decimal (m : Nat) (q : Int) (halved : Bool) : Nat × Int :=
  let i := interval m q halved
  i.search 20 (i.leading + 1)

/-- The digits of `n * 10 ^ e` with a point: positional, with at least one decimal. -/
def positional (n : Nat) (e : Int) : String :=
  let ds := Nat.toDigits 10 n
  if 0 ≤ e then String.ofList ds ++ String.ofList (List.replicate e.toNat '0') ++ ".0"
  else
    let places := (-e).toNat
    let padded := List.replicate (places + 1 - ds.length) '0' ++ ds
    let whole := padded.take (padded.length - places)
    let fraction := padded.drop (padded.length - places)
    String.ofList whole ++ "." ++ String.ofList fraction

/-- The digits of `n * 10 ^ e` with one digit before the point and an exponent. -/
def scientific (n : Nat) (e : Int) : String :=
  let ds := Nat.toDigits 10 n
  let power := e + (ds.length - 1 : Nat)
  let tail := if ds.length ≤ 1 then "" else "." ++ String.ofList (ds.drop 1)
  String.ofList (ds.take 1) ++ tail ++ "e" ++ toString power

/-- The text of a single-precision number: positional from `1e-4` to below `1e16`, else with an
exponent. -/
def singleText (x : Float32) : String :=
  let bits := x.toBits.toNat
  let minus := if bits / 0x80000000 = 1 then "-" else ""
  let field : Nat := bits / 0x800000 % 0x100
  let fraction : Nat := bits % 0x800000
  if field = 255 then (if fraction = 0 then minus ++ "inf" else "NaN")
  else if field = 0 ∧ fraction = 0 then minus ++ "0.0"
  else
    let (m, q) : Nat × Int :=
      if field = 0 then (fraction, -149) else (fraction + 0x800000, (field : Int) - 150)
    let (n, e) := decimal m q (fraction = 0 && 1 < field)
    let power := e + ((Nat.toDigits 10 n).length - 1 : Nat)
    minus ++ if -4 ≤ power ∧ power < 16 then positional n e else scientific n e

end ResultFlow.Shortest
