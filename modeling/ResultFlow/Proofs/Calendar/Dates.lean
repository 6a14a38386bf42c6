import Mathlib.Tactic.IntervalCases
import ResultFlow.Cell
import ResultFlow.Proofs.Calendar.Fields

/-!
# Dates and timestamps of cells

The text `YYYY-MM-DD` of a day is read back as that day if the calendar has it, and `YYYY-MM-DD
HH:MM:SS` with up to nine digits of a fraction as that time on the day. For a day that the calendar
does not have, both are refused, and neither text is taken for the other kind.

1. `OnCalendar` is the calendar by its month lengths and leap years; `exists?_iff` compares it with the
   days that reading accepts.
2. `read?_dateText` is what is read at the start of both texts; a day of three or more digits leaves
   some of them, and no hour ends there (`read?_timeItems_digits`).
3. `bind_read?_dateText` is the text of a day with anything behind it; the four ways to read the two
   texts are cases of it.
4. Main statement: both texts, read both ways, and the reports of all texts.
-/

namespace ResultFlow

variable {year month day : Nat}

/-! ## The calendar -/

/-- Every fourth year is a leap year, but of the last years of centuries only every fourth. -/
def Leap (year : Nat) : Prop := 4 ∣ year ∧ (¬ 100 ∣ year ∨ 400 ∣ year)

instance (year : Nat) : Decidable (Leap year) := inferInstanceAs (Decidable (_ ∧ _))

/-- The number of days of each month; there is no month zero. -/
def monthLengths (year : Nat) : List Nat :=
  [0, 31, if Leap year then 29 else 28, 31, 30, 31, 30, 31, 31, 30, 31, 30, 31]

/-- A day that the calendar has. -/
def OnCalendar (year month day : Nat) : Prop :=
  1 ≤ day ∧ day ≤ (monthLengths year).getD month 0

instance (year month day : Nat) : Decidable (OnCalendar year month day) :=
  inferInstanceAs (Decidable (_ ∧ _))

theorem isLeapYear_iff (year : Nat) : isLeapYear year = true ↔ Leap year := by
  simp only [isLeapYear, Leap, Bool.and_eq_true, Bool.or_eq_true, decide_eq_true_iff]
  omega

theorem daysInMonth_eq (year : Nat) (h : 1 ≤ month ∧ month ≤ 12) :
    daysInMonth year month = (monthLengths year).getD month 0 := by
  have hfebruary : (if isLeapYear year then 29 else 28) = if Leap year then 29 else 28 := by
    simp only [isLeapYear_iff]
  obtain ⟨hlo, hhi⟩ := h
  interval_cases month <;> first | rfl | exact hfebruary

namespace OnCalendar

theorem month_bounds (h : OnCalendar year month day) : 1 ≤ month ∧ month ≤ 12 := by
  obtain ⟨hlo, hhi⟩ := h
  constructor
  · by_contra hm
    rw [Nat.lt_one_iff.mp (Nat.lt_of_not_le hm)] at hhi
    exact Nat.not_succ_le_zero 0 (hlo.trans hhi)
  · by_contra hm
    rw [List.getD_eq_getElem?_getD, List.getElem?_eq_none (Nat.lt_of_not_le hm)] at hhi
    exact Nat.not_succ_le_zero 0 (hlo.trans hhi)

theorem day_le (h : OnCalendar year month day) : day ≤ 31 := by
  have hle : day ≤ daysInMonth year month := daysInMonth_eq year h.month_bounds ▸ h.2
  unfold daysInMonth at hle
  split_ifs at hle <;> omega

end OnCalendar

/-- Of the years with four digits all days of the calendar exist. -/
theorem exists?_iff (hy : year < 10 ^ 4) :
    (Date.mk year month day).exists? = true ↔ OnCalendar year month day := by
  have hbounds : Date.minYear ≤ year ∧ (year : Int) ≤ Date.maxYear := by
    unfold Date.minYear Date.maxYear
    omega
  simp only [Date.exists?, Bool.and_eq_true, decide_eq_true_iff, hbounds, true_and]
  constructor
  · rintro ⟨⟨hm, hlo⟩, hhi⟩
    exact ⟨hlo, daysInMonth_eq year hm ▸ hhi⟩
  · intro h
    exact ⟨⟨h.month_bounds, h.1⟩, daysInMonth_eq year h.month_bounds ▸ h.2⟩

theorem Date.ofFields?_eq (hy : year < 10 ^ 4) (month day : Nat) :
    Date.ofFields? [(year : Int), (month : Int), (day : Int)] =
      if OnCalendar year month day then some ⟨year, month, day⟩ else none := by
  show (if (Date.mk year month day).exists? = true then _ else _) = _
  simp only [exists?_iff hy]
  rfl

/-! ## Texts -/

/-- A time of day with up to nine digits of a fraction of a second. -/
structure TimeOfDay where
  hour : Fin 24
  minute : Fin 60
  second : Fin 60
  fraction : List (Fin 10)
  fraction_le : fraction.length ≤ 9

/-- The time on a day. -/
def TimeOfDay.on (time : TimeOfDay) (date : Date) : Timestamp :=
  ⟨date, time.hour, time.minute, time.second, Calendar.nanoseconds time.fraction⟩

namespace Calendar

open Text (trimLeft)

/-- A day as it is written. -/
def dateText (year month day : Nat) : List Char :=
  padded 4 year ++ '-' :: (padded 2 month ++ '-' :: padded 2 day)

/-- A time of day as it is written. -/
def timeText (time : TimeOfDay) : List Char :=
  padded 2 time.hour ++ ':' :: (padded 2 time.minute ++ ':' ::
    (padded 2 time.second ++ fractionText time.fraction))

/-- A time on a day as it is written. -/
def timestampText (year month day : Nat) (time : TimeOfDay) : List Char :=
  dateText year month day ++ ' ' :: timeText time

variable {α : Type} {cs ds rest : List Char} {items more : List Item} {vs : List Int}
  {time : TimeOfDay}

/-! ## Reading item by item -/

theorem read?_field {f : Field} {v : Int} (h : field? f cs = some (v, rest)) :
    read? (.field f :: items) cs = (read? items rest).map (v :: ·) := by
  rw [read?, h]
  show (read? items rest).bind (fun vs => some (v :: vs)) = _
  cases read? items rest <;> rfl

theorem read?_field_none {f : Field} (h : field? f cs = none) :
    read? (.field f :: items) cs = none := by
  rw [read?, h]
  rfl

theorem read?_literal (c : Char) (items : List Item) (cs : List Char) :
    read? (.literal c :: items) (c :: cs) = read? items cs := by
  rw [read?, after?_self]
  rfl

/-- A separator is not found behind further digits. -/
theorem read?_literal_digits {c : Char} (hd : ∀ d ∈ ds, d.isDigit = true) (hc : c.isDigit = false)
    (hne : ds ≠ []) : read? (.literal c :: items) (ds ++ rest) = none := by
  rw [read?, after?_digits hd hc, if_neg hne]
  rfl

theorem Part.fits_iff {p : Part} {n : Nat} :
    p.fits n = true ↔ p.bounds.1 ≤ n ∧ n ≤ p.bounds.2 := by
  rw [fits, Bool.and_eq_true, decide_eq_true_iff, decide_eq_true_iff]

theorem Part.lt_of_fits {p : Part} {n : Nat} (h : p.fits n = true) : n < 10 ^ 2 := by
  have hmax : p.bounds.2 ≤ 60 := by cases p <;> decide
  exact ((fits_iff.mp h).2.trans hmax).trans_lt (by decide)

theorem read?_part {p : Part} (n : Nat) (hr : rest.takeWhile Char.isDigit = []) :
    read? (.field (.part p) :: items) (padded 2 n ++ rest) =
      if p.fits (leading 2 n) then
        (read? items (surplus 2 n ++ rest)).map ((leading 2 n : Int) :: ·)
      else none := by
  have hfield := field?_part p n hr
  split
  · rename_i hb
    exact read?_field (hfield.trans (if_pos hb))
  · rename_i hb
    exact read?_field_none (hfield.trans (if_neg hb))

/-- In front of a separator a part is read as a whole. -/
theorem read?_part_literal {p : Part} {c : Char} (n : Nat) (hc : c.isDigit = false) :
    read? (.field (.part p) :: .literal c :: items) (padded 2 n ++ c :: rest) =
      if p.fits n then (read? items rest).map ((n : Int) :: ·)
      else none := by
  have hr : (c :: rest).takeWhile Char.isDigit = [] :=
    List.takeWhile_cons_of_neg (by rw [hc]; exact Bool.false_ne_true)
  rw [read?_part n hr]
  by_cases hn : n < 10 ^ 2
  · rw [leading_eq_self Nat.two_pos hn, (surplus_eq_nil_iff Nat.two_pos).mpr hn, List.nil_append,
      read?_literal]
  · have hlong : read? (.literal c :: items) (surplus 2 n ++ c :: rest) = none :=
      read?_literal_digits (fun _ => isDigit_of_mem_surplus) hc
        (mt (surplus_eq_nil_iff Nat.two_pos).mp hn)
    have hout : ¬ p.fits n = true := fun h => hn (Part.lt_of_fits h)
    rw [hlong, if_neg hout, Option.map_none, ite_self]

/-- What is read up to the end of a text is read of the same text by more items. -/
theorem read?_append (h : read? items cs = some vs) :
    read? (items ++ more) cs = (read? more []).map (vs ++ ·) := by
  induction items generalizing cs vs with
  | nil =>
    obtain ⟨rfl, he⟩ := Option.ite_none_right_eq_some.mp h
    cases he
    exact (congrFun Option.map_id _).symm
  | cons item items ih =>
    cases item with
    | literal c =>
      obtain ⟨rest, hc, h⟩ := Option.bind_eq_some_iff.mp h
      show (after? c cs).bind _ = _
      rw [hc]
      exact ih h
    | blank => exact ih h
    | field f =>
      obtain ⟨⟨v, rest⟩, hf, hrest⟩ := Option.bind_eq_some_iff.mp h
      obtain ⟨vs', hvs, he⟩ := Option.bind_eq_some_iff.mp hrest
      cases he
      refine (read?_field hf).trans ?_
      show (read? (items ++ more) rest).map _ = _
      rw [ih hvs, Option.map_map]
      rfl

/-! ## Reading dates -/

/-- The items of a date. -/
def dateItems : List Item :=
  [.field .year, .literal '-', .field (.part .month), .literal '-', .field (.part .day)]

/-- The items of a time behind a date. -/
def timeItems : List Item :=
  [.blank, .field (.part .hour), .literal ':', .field (.part .minute), .literal ':',
    .field (.part .second), .field .fraction]

/-- From the text of a day its numbers are read, a month and a day of the month within bounds. Of the
day the digits that are too many for two places are left. -/
theorem read?_dateText (hy : year < 10 ^ 4) (month day : Nat)
    (hr : rest.takeWhile Char.isDigit = []) :
    read? (dateItems ++ more) (dateText year month day ++ rest) =
      if Part.month.fits month ∧ Part.day.fits (leading 2 day) then
        (read? more (surplus 2 day ++ rest)).map fun vs =>
          (year : Int) :: (month : Int) :: (leading 2 day : Int) :: vs
      else none := by
  have hyear : field? .year
      (padded 4 year ++ '-' :: (padded 2 month ++ '-' :: (padded 2 day ++ rest))) =
        some ((year : Int), '-' :: (padded 2 month ++ '-' :: (padded 2 day ++ rest))) :=
    field?_year hy rfl
  simp only [dateItems, dateText, List.cons_append, List.nil_append, List.append_assoc,
    read?_field hyear, read?_literal, read?_part_literal (c := '-') month rfl, read?_part day hr]
  by_cases hm : Part.month.fits month = true
  · by_cases hd : Part.day.fits (leading 2 day) = true
    · rw [if_pos hm, if_pos hd, if_pos ⟨hm, hd⟩, Option.map_map, Option.map_map]
      rfl
    · rw [if_pos hm, if_neg hd, if_neg fun h => hd h.2]
      rfl
  · rw [if_neg hm, if_neg fun h => hm h.1]
    rfl

/-- The text of a day, with more behind it, is read if the calendar has the day, and else not at all:
`f` refuses days that the calendar does not have, and behind too many digits nothing is read. -/
theorem bind_read?_dateText (hy : year < 10 ^ 4) (month day : Nat) (more : List Item)
    (rest : List Char) (hr : rest.takeWhile Char.isDigit = []) {f : List Int → Option α}
    (hoff : ¬ OnCalendar year month day →
      ∀ vs, f ((year : Int) :: (month : Int) :: (day : Int) :: vs) = none)
    (hlong : ∀ ds, ds ≠ [] → (∀ c ∈ ds, c.isDigit = true) → read? more (ds ++ rest) = none) :
    (read? (dateItems ++ more) (dateText year month day ++ rest)).bind f =
      if OnCalendar year month day then
        (read? more rest).bind fun vs => f ((year : Int) :: (month : Int) :: (day : Int) :: vs)
      else none := by
  rw [read?_dateText hy month day hr]
  by_cases hd : day < 10 ^ 2
  · rw [leading_eq_self Nat.two_pos hd, (surplus_eq_nil_iff Nat.two_pos).mpr hd, List.nil_append]
    by_cases hon : OnCalendar year month day
    · have hmonth := Part.fits_iff (p := .month).mpr hon.month_bounds
      have hday := Part.fits_iff (p := .day).mpr ⟨hon.1, hon.day_le⟩
      rw [if_pos ⟨hmonth, hday⟩, if_pos hon]
      cases read? more rest <;> rfl
    · rw [if_neg hon]
      split
      · cases read? more rest with
        | none => rfl
        | some vs => exact hoff hon vs
      · rfl
  · have hoff' : ¬ OnCalendar year month day := fun h => hd (h.day_le.trans_lt (by decide))
    rw [hlong _ (mt (surplus_eq_nil_iff Nat.two_pos).mp hd) fun _ => isDigit_of_mem_surplus,
      Option.map_none, ite_self, if_neg hoff', Option.bind_none]

theorem dateOfFields?_of_not (hy : year < 10 ^ 4) (hoff : ¬ OnCalendar year month day)
    (vs : List Int) : Date.ofFields? ((year : Int) :: (month : Int) :: (day : Int) :: vs) = none := by
  cases vs with
  | nil => rw [Date.ofFields?_eq hy, if_neg hoff]
  | cons v vs => rfl

theorem timestampOfFields?_of_not (hy : year < 10 ^ 4) (hoff : ¬ OnCalendar year month day)
    (vs : List Int) :
    Timestamp.ofFields? ((year : Int) :: (month : Int) :: (day : Int) :: vs) = none := by
  unfold Timestamp.ofFields?
  split
  · rename_i he
    cases he
    rw [Date.ofFields?_eq hy, if_neg hoff, Option.map_none]
  · rfl

theorem read?_nil_of_ne_nil (h : cs ≠ []) : read? [] cs = none := if_neg h

/-- The text of a day is read as that day, or not at all. -/
theorem date_of_dateText (hy : year < 10 ^ 4) (month day : Nat) :
    (read? dateItems (dateText year month day)).bind Date.ofFields? =
      if OnCalendar year month day then some ⟨year, month, day⟩ else none := by
  have h := bind_read?_dateText hy month day [] [] rfl (dateOfFields?_of_not hy) fun ds hne _ =>
    read?_nil_of_ne_nil (List.append_ne_nil_of_left_ne_nil hne _)
  rw [List.append_nil, List.append_nil] at h
  rw [h]
  split
  · rename_i hon
    rw [read?, if_pos rfl, Option.bind_some, Date.ofFields?_eq hy, if_pos hon]
  · rfl

/-- No day ends with the time on it. -/
theorem date_of_timestampText (hy : year < 10 ^ 4) (month day : Nat) (time : TimeOfDay) :
    (read? dateItems (timestampText year month day time)).bind Date.ofFields? = none := by
  have h := bind_read?_dateText hy month day [] (' ' :: timeText time) rfl
    (dateOfFields?_of_not hy) fun ds hne _ =>
      read?_nil_of_ne_nil (List.append_ne_nil_of_left_ne_nil hne _)
  rw [List.append_nil] at h
  refine h.trans ?_
  rw [read?_nil_of_ne_nil (List.cons_ne_nil _ _), Option.bind_none, ite_self]

/-! ## Reading times -/

/-- Digits are no hour unless a colon follows. -/
theorem read?_timeItems_digits (hne : ds ≠ []) (hd : ∀ c ∈ ds, c.isDigit = true)
    (hr : rest.takeWhile Char.isDigit = []) (hc : after? ':' rest = none) :
    read? timeItems (ds ++ rest) = none := by
  have hhour := field?_digits .hour hne hd hr
  show read? (.field (.part .hour) :: .literal ':' :: _) (trimLeft (ds ++ rest)) = none
  rw [trimLeft_digits hne hd]
  split at hhour
  · have hcolon : after? ':' (ds.drop 2 ++ rest) = none := by
      rw [after?_digits (fun c hc => hd c (List.mem_of_mem_drop hc)) rfl, hc, ite_self]
    rw [read?_field hhour, read?, hcolon]
    rfl
  · exact read?_field_none hhour

/-- The time of day behind a day is read to its end. -/
theorem read?_timeItems (time : TimeOfDay) :
    read? timeItems (' ' :: timeText time) =
      some [(time.hour : Int), (time.minute : Int), (time.second : Int),
        (nanoseconds time.fraction : Int)] := by
  have hhour : Part.hour.fits time.hour = true :=
    Part.fits_iff.mpr ⟨Nat.zero_le _, Nat.le_of_lt_succ time.hour.isLt⟩
  have hminute : Part.minute.fits time.minute = true :=
    Part.fits_iff.mpr ⟨Nat.zero_le _, Nat.le_of_lt_succ time.minute.isLt⟩
  have hsecond : Part.second.fits time.second = true :=
    Part.fits_iff.mpr ⟨Nat.zero_le _, time.second.isLt.le⟩
  have hseconds := field?_part_of_le (Part.lt_of_fits hsecond) hsecond
    (takeWhile_fractionText time.fraction)
  have hblank : ∀ c ∈ [' '], Text.isBlank c = true := List.forall_mem_singleton.mpr rfl
  have htrim : trimLeft (' ' :: timeText time) = timeText time :=
    trimLeft_append [' '] hblank
      (takeWhile_isBlank_digits (padded_ne_nil 2 _) fun _ => isDigit_of_mem_padded)
  rw [timeItems, read?, htrim, timeText, read?_part_literal (c := ':') _ rfl, if_pos hhour,
    read?_part_literal (c := ':') _ rfl, if_pos hminute, read?_field hseconds,
    read?_field (field?_fraction time.fraction_le)]
  rfl

/-- The text of a time on a day is read as that time, if the calendar has the day. -/
theorem timestamp_of_timestampText (hy : year < 10 ^ 4) (month day : Nat) (time : TimeOfDay) :
    (read? (dateItems ++ timeItems) (timestampText year month day time)).bind
        Timestamp.ofFields? =
      if OnCalendar year month day then some (time.on ⟨year, month, day⟩) else none := by
  have h := bind_read?_dateText hy month day timeItems (' ' :: timeText time) rfl
    (timestampOfFields?_of_not hy) fun ds hne hd => read?_timeItems_digits hne hd rfl rfl
  refine h.trans ?_
  split
  · rename_i hon
    rw [read?_timeItems]
    show (Date.ofFields? [(year : Int), (month : Int), (day : Int)]).map _ = _
    rw [Date.ofFields?_eq hy, if_pos hon, Option.map_some, if_neg]
    · rfl
    · exact fun h => time.second.isLt.ne (Int.ofNat_inj.mp h)
  · rfl

/-- The text of a day is no timestamp, also if the calendar does not have the day. -/
theorem timestamp_of_dateText (hy : year < 10 ^ 4) (month day : Nat) :
    (read? (dateItems ++ timeItems) (dateText year month day)).bind Timestamp.ofFields? = none := by
  have h := bind_read?_dateText hy month day timeItems [] rfl (timestampOfFields?_of_not hy)
    fun ds hne hd => read?_timeItems_digits hne hd rfl rfl
  rw [List.append_nil] at h
  refine h.trans ?_
  split <;> rfl

/-- What has the fields of a day has not also those of a time. -/
theorem read?_timestamp_of_date (h : read? dateItems cs = some vs) :
    read? (dateItems ++ timeItems) cs = none := by
  rw [read?_append h]
  rfl

end Calendar

/-! ## Main statement -/

namespace Cell

variable {reader : DateReader}

theorem date_some (h : reader.FollowsFormats) (s : String) :
    date reader (some s) = ((Calendar.read? Calendar.dateItems s.toList).bind Date.ofFields?).elim
      (.error (.conversion s "date")) .ok := by
  have known : Calendar.items? dateFormat.toList = some Calendar.dateItems := by decide
  simp only [date, h.date?_eq known (by decide)]
  cases (Calendar.read? Calendar.dateItems s.toList).bind Date.ofFields? <;> rfl

theorem timestamp_some (h : reader.FollowsFormats) (s : String) :
    timestamp reader (some s) =
      ((Calendar.read? (Calendar.dateItems ++ Calendar.timeItems) s.toList).bind
        Timestamp.ofFields?).elim (.error (.conversion s "timestamp")) .ok := by
  have known : Calendar.items? timestampFormat.toList =
      some (Calendar.dateItems ++ Calendar.timeItems) := by decide
  simp only [timestamp, h.timestamp?_eq known (by decide)]
  cases (Calendar.read? (Calendar.dateItems ++ Calendar.timeItems) s.toList).bind
    Timestamp.ofFields? <;> rfl

theorem conversion_of_error {α : Type} {o : Option α} {s name : String} {e : Error}
    (h : o.elim (.error (.conversion s name)) Except.ok = .error e) : e = .conversion s name := by
  cases o with
  | none => exact (Except.error.inj h).symm
  | some _ => cases h

/-- **Days and times are read back.** By any reader that follows the formats, the texts of a day and
of a time on it are converted to them exactly if the calendar has the day, and never to the other
kind; no text is converted to both. What is not converted is reported with its text. -/
theorem dates_round_trip (hreader : reader.FollowsFormats) {year : Nat} (hy : year ≤ 9999)
    (month day : Nat) (time : TimeOfDay) {d t : String}
    (hd : d.toList = Calendar.dateText year month day)
    (ht : t.toList = Calendar.timestampText year month day time) :
    date reader (some d) = (if OnCalendar year month day then .ok ⟨year, month, day⟩
        else .error (.conversion d "date")) ∧
      timestamp reader (some t) = (if OnCalendar year month day then
          .ok (time.on ⟨year, month, day⟩)
        else .error (.conversion t "timestamp")) ∧
      (∀ found, date reader (some d) = .ok found ↔
        ∃ stamp, timestamp reader (some t) = .ok stamp ∧ stamp.date = found) ∧
      timestamp reader (some d) = .error (.conversion d "timestamp") ∧
      date reader (some t) = .error (.conversion t "date") ∧
      ∀ s : String, (∀ e, date reader (some s) = .error e → e = .conversion s "date") ∧
        (∀ e, timestamp reader (some s) = .error e → e = .conversion s "timestamp") ∧
        (∀ found, date reader (some s) = .ok found →
          timestamp reader (some s) = .error (.conversion s "timestamp")) := by
  have hy : year < 10 ^ 4 := Nat.lt_succ_of_le hy
  have hdate : date reader (some d) = (if OnCalendar year month day then .ok ⟨year, month, day⟩
      else .error (.conversion d "date")) := by
    rw [date_some hreader, hd, Calendar.date_of_dateText hy]
    split <;> rfl
  have hstamp : timestamp reader (some t) = (if OnCalendar year month day then
      .ok (time.on ⟨year, month, day⟩) else .error (.conversion t "timestamp")) := by
    rw [timestamp_some hreader, ht, Calendar.timestamp_of_timestampText hy]
    split <;> rfl
  refine ⟨hdate, hstamp, ?_, ?_, ?_, fun s => ⟨?_, ?_, ?_⟩⟩
  · intro found
    rw [hdate, hstamp]
    split
    · constructor
      · intro h
        exact ⟨_, rfl, Except.ok.inj h⟩
      · rintro ⟨stamp, h, rfl⟩
        cases h
        rfl
    · exact ⟨nofun, nofun⟩
  · rw [timestamp_some hreader, hd, Calendar.timestamp_of_dateText hy]
    rfl
  · rw [date_some hreader, ht, Calendar.date_of_timestampText hy]
    rfl
  · intro e he
    exact conversion_of_error ((date_some hreader s).symm.trans he)
  · intro e he
    exact conversion_of_error ((timestamp_some hreader s).symm.trans he)
  · intro found hfound
    cases hread : Calendar.read? Calendar.dateItems s.toList with
    | none =>
      rw [date_some hreader, hread] at hfound
      cases hfound
    | some _ =>
      rw [timestamp_some hreader, Calendar.read?_timestamp_of_date hread]
      rfl

/-- Read item by item, the leap day of 2024 with a time on it; 1900 has none. -/
theorem dates_round_trip_leap_day :
    DateReader.itemwise.FollowsFormats ∧
      date .itemwise (some "2024-02-29") = .ok ⟨2024, 2, 29⟩ ∧
      timestamp .itemwise (some "2024-02-29 12:30:45.125") =
        .ok ⟨⟨2024, 2, 29⟩, 12, 30, 45, 125000000⟩ ∧
      date .itemwise (some "1900-02-29") = .error (.conversion "1900-02-29" "date") := by
  let time : TimeOfDay := ⟨12, 30, 45, [1, 2, 5], by decide⟩
  have hreader := DateReader.itemwise_followsFormats
  have hleap : "2024-02-29".toList = Calendar.dateText 2024 2 29 := by decide
  have hstamp : "2024-02-29 12:30:45.125".toList = Calendar.timestampText 2024 2 29 time := by
    decide
  have hcentury : "1900-02-29".toList = Calendar.dateText 1900 2 29 := by decide
  have hlast : "1900-02-29 12:30:45.125".toList = Calendar.timestampText 1900 2 29 time := by
    decide
  obtain ⟨hdate, htime, -⟩ := dates_round_trip hreader (by decide) 2 29 time hleap hstamp
  obtain ⟨hrefused, -⟩ := dates_round_trip hreader (by decide) 2 29 time hcentury hlast
  exact ⟨hreader, hdate.trans (if_pos (by decide)), htime.trans (if_pos (by decide)),
    hrefused.trans (if_neg (by decide))⟩

end Cell

end ResultFlow
