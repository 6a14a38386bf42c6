import ResultFlow.Number.Decimal
import ResultFlow.Text

/-!
# Dates and times

Days of the Gregorian calendar, extended to all years, and times of day to the nanosecond. A
`DateReader` reads them from a text by a format, in which `%Y`, `%m`, `%d`, `%H`, `%M`, `%S` and
`%.f` stand for fields. `DateReader.itemwise` is one for formats with all fields of a day, or of a
day and a time, in this order: it goes through the text with the items of the format.
-/

namespace ResultFlow

/-- A year with 29 days in February. -/
def isLeapYear (year : Int) : Bool :=
  year % 4 = 0 && (year % 100 ≠ 0 || year % 400 = 0)

/-- The number of days of a month. -/
def daysInMonth (year : Int) (month : Nat) : Nat :=
  if month = 2 then (if isLeapYear year then 29 else 28)
  else if month ∈ [4, 6, 9, 11] then 30
  else 31

/-- A day of the calendar. -/
structure Date where
  year : Int
  month : Nat
  day : Nat
  deriving DecidableEq, Inhabited

namespace Date

/-- The years for which days are counted. -/
def minYear : Int := -262143

def maxYear : Int := 262142

/-- Whether the day exists. -/
def exists? (d : Date) : Bool :=
  minYear ≤ d.year && d.year ≤ maxYear && 1 ≤ d.month && d.month ≤ 12 && 1 ≤ d.day &&
    d.day ≤ daysInMonth d.year d.month

/-- The day of a year, a month and a day of the month, if it exists. -/
def ofFields? : List Int → Option Date
  | [year, month, day] =>
    let date : Date := ⟨year, month.toNat, day.toNat⟩
    if date.exists? then some date else none
  | _ => none

end Date

/-- A time of day on a date. A leap second is the second 59 with a billion nanoseconds or more. -/
structure Timestamp where
  date : Date
  hour : Nat
  minute : Nat
  second : Nat
  nano : Nat
  deriving DecidableEq, Inhabited

/-- The timestamp of a year, a month, a day of the month, an hour, a minute, a second and its
nanoseconds, if the day exists. The second 60 is a leap second. -/
def Timestamp.ofFields? : List Int → Option Timestamp
  | [year, month, day, hour, minute, second, nano] =>
    (Date.ofFields? [year, month, day]).map fun date =>
      if second = 60 then ⟨date, hour.toNat, minute.toNat, 59, nano.toNat + 1000000000⟩
      else ⟨date, hour.toNat, minute.toNat, second.toNat, nano.toNat⟩
  | _ => none

/-- A reader of days and of timestamps, from a text and a format. -/
structure DateReader where
  date? (text format : String) : Option Date
  timestamp? (text format : String) : Option Timestamp

namespace Calendar

open Text (trimLeft)

/-! ## Formats -/

/-- A part of a date or a time that is written with two digits. -/
inductive Part
  | month
  | day
  | hour
  | minute
  | second
  deriving DecidableEq

/-- The least and the greatest value of a part. -/
def Part.bounds : Part → Nat × Nat
  | month => (1, 12)
  | day => (1, 31)
  | hour => (0, 23)
  | minute => (0, 59)
  | second => (0, 60)

/-- Whether a number can be the value of a part. -/
def Part.fits (p : Part) (n : Nat) : Bool := p.bounds.1 ≤ n && n ≤ p.bounds.2

/-- What a format asks for. -/
inductive Field
  | year
  | part (p : Part)
  /-- The fraction of a second, with its point. -/
  | fraction
  deriving DecidableEq

/-- An item of a format. -/
inductive Item
  | field (f : Field)
  | blank
  | literal (c : Char)
  deriving DecidableEq

/-- The fields of a format, in their order. -/
def fields (items : List Item) : List Field :=
  items.filterMap fun
    | .field f => some f
    | _ => none

def dateFields : List Field := [.year, .part .month, .part .day]

def timestampFields : List Field :=
  dateFields ++ [.part .hour, .part .minute, .part .second, .fraction]

/-- The items of a format, if it has no others. -/
def items? : List Char → Option (List Item)
  | [] => some []
  | '%' :: '.' :: 'f' :: cs => (items? cs).map (.field .fraction :: ·)
  | '%' :: c :: cs => do
    let item ← match c with
      | 'Y' => some (.field .year)
      | 'm' => some (.field (.part .month))
      | 'd' => some (.field (.part .day))
      | 'H' => some (.field (.part .hour))
      | 'M' => some (.field (.part .minute))
      | 'S' => some (.field (.part .second))
      | '%' => some (.literal '%')
      | _ => none
    return item :: (← items? cs)
  | '%' :: [] => none
  | c :: cs => (items? cs).map ((if Text.isBlank c then .blank else .literal c) :: ·)

/-! ## Reading by a format -/

/-- As many digits at the start of a text as there are, or as a width allows. -/
def leadingDigits (width : Option Nat) (cs : List Char) : List Char :=
  let ds := cs.takeWhile Char.isDigit
  width.elim ds ds.take

/-- The number at the start of a text, and the rest of the text. -/
def number? (width : Option Nat) (cs : List Char) : Option (Nat × List Char) :=
  let ds := leadingDigits width cs
  (Integer.digits? ds).map (·, cs.drop ds.length)

/-- A year of at most four digits, or of any length after a sign, and the rest of the text. -/
def year? : List Char → Option (Int × List Char)
  | '-' :: cs => (number? none cs).map fun (n, rest) => (-(n : Int), rest)
  | '+' :: cs => (number? none cs).map fun (n, rest) => ((n : Int), rest)
  | cs => (number? (some 4) cs).map fun (n, rest) => ((n : Int), rest)

/-- The value of a part within its bounds, and the rest of the text. -/
def part? (p : Part) (cs : List Char) : Option (Int × List Char) := do
  let (n, rest) ← number? (some 2) cs
  if p.fits n then some (n, rest) else none

/-- The nanoseconds of a fraction by its digits. Those after the ninth are skipped. -/
def nanos (ds : List Char) : Nat :=
  let kept := ds.take 9
  Integer.valueFrom 0 kept * Nat.pow 10 (9 - kept.length)

/-- The nanoseconds of a fraction, which may be missing, and the rest of the text. -/
def fraction? : List Char → Option (Int × List Char)
  | '.' :: cs =>
    let ds := leadingDigits none cs
    if ds = [] then none else some (nanos ds, cs.drop ds.length)
  | cs => some (0, cs)

/-- The value of a field, and the rest of the text. Blanks may stand before a number. -/
def field? : Field → List Char → Option (Int × List Char)
  | .year, cs => year? (trimLeft cs)
  | .part p, cs => part? p (trimLeft cs)
  | .fraction, cs => fraction? cs

/-- The rest of a text that begins with `c`. -/
def after? (c : Char) : List Char → Option (List Char)
  | d :: cs => if d = c then some cs else none
  | [] => none

/-- The values of the fields of a whole text. -/
def read? : List Item → List Char → Option (List Int)
  | [], cs => if cs = [] then some [] else none
  | .literal c :: items, cs => do read? items (← after? c cs)
  | .blank :: items, cs => read? items (trimLeft cs)
  | .field f :: items, cs => do
    let (n, rest) ← field? f cs
    return n :: (← read? items rest)

/-- The values of the fields of a whole text, by a format that has these fields. -/
def readFields? (expected : List Field) (text format : String) : Option (List Int) := do
  let items ← items? format.toList
  if fields items = expected then read? items text.toList else none

end Calendar

/-- The reader that goes through a text with the items of a format. -/
def DateReader.itemwise : DateReader where
  date? text format := (Calendar.readFields? Calendar.dateFields text format).bind Date.ofFields?
  timestamp? text format :=
    (Calendar.readFields? Calendar.timestampFields text format).bind Timestamp.ofFields?

end ResultFlow
