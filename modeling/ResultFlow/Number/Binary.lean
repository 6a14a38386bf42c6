/-!
# Rounding to binary floating point

The value nearest to an exact quotient among those with a bounded number of significant bits; of two
that are equally near, the one with the even last bit. `Format.nearest` gives the bit pattern of the
rounded quotient, `toDouble` and `toSingle` the rounded value of a whole number, and `wholeDouble`
the whole number that a double keeps of a whole number.
-/

namespace ResultFlow.Binary

/-- The whole number nearest to `num / den`; a half goes to the even neighbour. -/
def roundQuotient (num den : Nat) : Nat :=
  let q := num / den
  let r := num % den
  if 2 * r < den then q
  else if den < 2 * r then q + 1
  else if q % 2 = 0 then q else q + 1

/-- A binary floating-point format. -/
structure Format where
  /-- The number of significant bits. -/
  precision : Nat
  /-- The least positive value is `2 ^ -least`. -/
  least : Nat
  /-- The bit pattern of infinity, above those of all finite values. -/
  infinity : Nat
  /-- The bit that marks a negative value. -/
  sign : Nat

def single : Format := ⟨24, 149, 0x7F800000, 0x80000000⟩

def double : Format := ⟨53, 1074, 0x7FF0000000000000, 0x8000000000000000⟩

/-- Whether `num / den` is at least `2 ^ e`. -/
def atLeastPower (num den : Nat) (e : Int) : Bool :=
  if 0 ≤ e then den * Nat.pow 2 e.toNat ≤ num else den ≤ num * Nat.pow 2 (-e).toNat

/-- The exponent `e` with `2 ^ e ≤ num / den < 2 ^ (e + 1)`, for positive `num` and `den`. -/
def exponent (num den : Nat) : Int :=
  let e : Int := (num.log2 : Int) - den.log2
  if atLeastPower num den e then e else e - 1

/-- The bit pattern of the value nearest to `num / den`. A carry out of the significant bits runs
into the exponent, which is the next value up. -/
def Format.nearest (f : Format) (num den : Nat) : Nat :=
  if num = 0 then 0
  else
    let k := max (exponent num den - ((f.precision : Int) - 1)) (-(f.least : Int))
    let q := if 0 ≤ k then roundQuotient num (den * Nat.pow 2 k.toNat)
      else roundQuotient (num * Nat.pow 2 (-k).toNat) den
    min ((k + f.least).toNat * Nat.pow 2 (f.precision - 1) + q) f.infinity

/-- The bit pattern of the value nearest to `m * 10 ^ e`. Beyond four hundred decimal places either
way every format has only infinity or zero. -/
def Format.nearestDecimal (f : Format) (m : Nat) (e : Int) : Nat :=
  let places : Int := (Nat.toDigits 10 m).length + e
  if m = 0 then 0
  else if 400 < places then f.infinity
  else if places < -400 then 0
  else if 0 ≤ e then f.nearest (m * Nat.pow 10 e.toNat) 1
  else f.nearest m (Nat.pow 10 (-e).toNat)

/-- What a double keeps of the whole number `n`: its leading 53 bits, rounded. -/
def wholeDouble (n : Nat) : Nat :=
  let k := n.log2 - 52
  roundQuotient n (Nat.pow 2 k) * Nat.pow 2 k

/-- What a double keeps of an integer. -/
def integerDouble (n : Int) : Int :=
  if 0 ≤ n then (wholeDouble n.toNat : Int) else -(wholeDouble (-n).toNat : Int)

/-- The double nearest to an integer. -/
def toDouble (n : Int) : Float :=
  .ofBits ((if n < 0 then double.sign else 0) + double.nearest n.natAbs 1).toUInt64

/-- The single nearest to a whole number. -/
def toSingle (n : Nat) : Float32 := .ofBits (single.nearest n 1).toUInt32

end ResultFlow.Binary
