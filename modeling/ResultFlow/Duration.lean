/-!
# Lengths of time

A `Duration` counts nanoseconds. Its text uses the largest of the units s, ms, µs and ns that it
reaches, with as many decimals as are needed to be exact: `1.5s`, `20ms`, `500µs`, `0ns`.
-/

namespace ResultFlow

/-- A length of time, in whole nanoseconds. -/
structure Duration where
  nanos : Nat
  deriving DecidableEq, Inhabited

namespace Duration

def ofMicros (n : Nat) : Duration := ⟨n * 1000⟩

def ofMillis (n : Nat) : Duration := ⟨n * 1000000⟩

/-- Whole milliseconds, rounded down. -/
def millis (d : Duration) : Nat := d.nanos / 1000000

/-- The time taken by `n` repetitions of `d`. -/
def scale (d : Duration) (n : Nat) : Duration := ⟨d.nanos * n⟩

/-- The nanoseconds of seconds that have 64 bits. -/
def limit : Nat := Nat.pow 2 64 * 1000000000

/-- The time taken by `n` repetitions of `d`, if its seconds have 64 bits. -/
def scale? (d : Duration) (n : Nat) : Option Duration :=
  if d.nanos * n < limit then some (d.scale n) else none

/-- The decimals of `rest / 10 ^ width`, without trailing zeros. -/
def decimals (rest width : Nat) : List Char :=
  let digits := (Nat.toDigits 10 rest)
  let padded := List.replicate (width - digits.length) '0' ++ digits
  (padded.reverse.dropWhile (· = '0')).reverse

/-- `nanos` counted in a unit of `10 ^ width` nanoseconds. -/
def inUnit (nanos width : Nat) (symbol : String) : String :=
  let whole := toString (nanos / Nat.pow 10 width)
  let fraction := if width = 0 then [] else decimals (nanos % Nat.pow 10 width) width
  if fraction.isEmpty then whole ++ symbol
  else whole ++ "." ++ String.ofList fraction ++ symbol

/-- The exact text of a duration, in the largest unit that it reaches. -/
def text (d : Duration) : String :=
  if 1000000000 ≤ d.nanos then inUnit d.nanos 9 "s"
  else if 1000000 ≤ d.nanos then inUnit d.nanos 6 "ms"
  else if 1000 ≤ d.nanos then inUnit d.nanos 3 "µs"
  else inUnit d.nanos 0 "ns"

/-- Seconds with two decimals, a half rounded up. -/
def hundredths (d : Duration) : String :=
  let n := (d.nanos + 5000000) / 10000000
  let cents := toString (n % 100)
  toString (n / 100) ++ "." ++ (if cents.length < 2 then "0" ++ cents else cents) ++ "s"

end Duration

end ResultFlow
