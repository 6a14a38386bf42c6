import Mathlib.Data.List.TakeWhile
import ResultFlow.Calendar
import ResultFlow.Proofs.Number.Numeral

/-!
# Texts written in a format

What reading by a format is documented to do, as a grammar, and the readers that do it.

1. `Written items cs vs` says that a text is written item for item, with these values of the fields.
   Numbers are as long as they can be, blanks may stand before them, and a number of two digits lies
   within its bounds.
2. `DateReader.FollowsFormats` is what a reader promises: it reads a text exactly if the text is
   written in the format and the day exists.
3. `read?_eq_some_iff` compares reading with the grammar. So the reader that goes item by item keeps
   the promise (`itemwise_followsFormats`), and any other that keeps it reads the same
   (`FollowsFormats.date?_eq`, `FollowsFormats.timestamp?_eq`).
-/

namespace ResultFlow

namespace Calendar

open Text (isBlank trimLeft)

/-! ## The grammar -/

/-- One or more digits, as many as there are or as a width allows, in front of the rest of a text. -/
structure Digits (width : Option Nat) (ds rest : List Char) : Prop where
  ne_nil : ds ≠ []
  isDigit : ∀ c ∈ ds, c.isDigit = true
  length_le : ∀ w ∈ width, ds.length ≤ w
  longest : (∃ w ∈ width, ds.length = w) ∨ rest.takeWhile Char.isDigit = []

/-- A text that begins with a field, the value of the field, and the rest of the text. -/
inductive FieldAt : Field → List Char → Int → List Char → Prop
  | year {bs ds rest} : (∀ c ∈ bs, isBlank c = true) → Digits (some 4) ds rest →
      FieldAt .year (bs ++ (ds ++ rest)) (Integer.valueFrom 0 ds) rest
  | positive_year {bs ds rest} : (∀ c ∈ bs, isBlank c = true) → Digits none ds rest →
      FieldAt .year (bs ++ '+' :: (ds ++ rest)) (Integer.valueFrom 0 ds) rest
  | negative_year {bs ds rest} : (∀ c ∈ bs, isBlank c = true) → Digits none ds rest →
      FieldAt .year (bs ++ '-' :: (ds ++ rest)) (-Integer.valueFrom 0 ds) rest
  | part {bs ds rest} (p : Part) : (∀ c ∈ bs, isBlank c = true) → Digits (some 2) ds rest →
      p.fits (Integer.valueFrom 0 ds) = true →
      FieldAt (.part p) (bs ++ (ds ++ rest)) (Integer.valueFrom 0 ds) rest
  | no_fraction {rest} : rest.head? ≠ some '.' → FieldAt .fraction rest 0 rest
  | fraction {ds rest} : Digits none ds rest →
      FieldAt .fraction ('.' :: (ds ++ rest)) (nanos ds) rest

/-- A text that is written as the items of a format say, one after another, and the values of its
fields. -/
inductive Written : List Item → List Char → List Int → Prop
  | nothing : Written [] [] []
  | literal {items cs vs} (c : Char) : Written items cs vs →
      Written (.literal c :: items) (c :: cs) vs
  | blank {items bs cs vs} : (∀ c ∈ bs, isBlank c = true) → cs.takeWhile isBlank = [] →
      Written items cs vs → Written (.blank :: items) (bs ++ cs) vs
  | field {items f cs v rest vs} : FieldAt f cs v rest → Written items rest vs →
      Written (.field f :: items) cs (v :: vs)

end Calendar

open Calendar in
/-- What a reader promises of the formats with all fields of a day, or of a day and a time: a text is
read exactly if it is written in the format and its fields are those of a day that exists. -/
structure DateReader.FollowsFormats (reader : DateReader) : Prop where
  date {format : String} {items : List Calendar.Item} (known : items? format.toList = some items)
    (complete : fields items = dateFields) (text : String) (d : Date) :
    reader.date? text format = some d ↔
      ∃ vs, Written items text.toList vs ∧ Date.ofFields? vs = some d
  timestamp {format : String} {items : List Calendar.Item} (known : items? format.toList = some items)
    (complete : fields items = timestampFields) (text : String) (t : Timestamp) :
    reader.timestamp? text format = some t ↔
      ∃ vs, Written items text.toList vs ∧ Timestamp.ofFields? vs = some t

namespace Calendar

open Text (isBlank trimLeft)

variable {width : Option Nat} {c : Char} {p : Part} {items : List Item} {bs ds cs rest : List Char}
  {n : Nat} {vs : List Int}

/-! ## Numbers -/

theorem isBlank_of_isDigit (h : c.isDigit = true) : isBlank c = false := by
  have hall : ∀ d : Fin 10, isBlank (digit d) = false := by decide
  obtain ⟨d, rfl⟩ := exists_digit h
  exact hall d

theorem takeWhile_isBlank_digits (hne : ds ≠ []) (hd : ∀ c ∈ ds, c.isDigit = true) :
    (ds ++ rest).takeWhile isBlank = [] := by
  obtain ⟨c, ds, rfl⟩ := List.exists_cons_of_ne_nil hne
  refine List.takeWhile_cons_of_neg ?_
  rw [isBlank_of_isDigit (hd c List.mem_cons_self)]
  exact Bool.false_ne_true

/-- Blanks are taken off up to the first other character. -/
theorem trimLeft_append (bs : List Char) (hb : ∀ c ∈ bs, isBlank c = true)
    (hr : rest.takeWhile isBlank = []) : trimLeft (bs ++ rest) = rest := by
  have h := List.takeWhile_append_dropWhile (p := isBlank) (l := rest)
  rw [hr, List.nil_append] at h
  exact (List.dropWhile_append_of_pos hb).trans h

theorem takeWhile_dropWhile (f : Char → Bool) (cs : List Char) :
    (cs.dropWhile f).takeWhile f = [] := by
  induction cs with
  | nil => rfl
  | cons c cs ih =>
    by_cases hc : f c = true
    · rw [List.dropWhile_cons_of_pos hc, ih]
    · rw [List.dropWhile_cons_of_neg hc, List.takeWhile_cons_of_neg hc]

/-- Every text begins with blanks, if only with none. -/
theorem exists_blanks (cs : List Char) : ∃ bs, (∀ c ∈ bs, isBlank c = true) ∧
    (trimLeft cs).takeWhile isBlank = [] ∧ cs = bs ++ trimLeft cs :=
  ⟨cs.takeWhile isBlank, fun _ => List.mem_takeWhile_imp, takeWhile_dropWhile isBlank cs,
    List.takeWhile_append_dropWhile.symm⟩

theorem drop_takeWhile_length (f : Char → Bool) (cs : List Char) :
    cs.drop (cs.takeWhile f).length = cs.dropWhile f := by
  have h := congrArg (List.drop (cs.takeWhile f).length)
    (List.takeWhile_append_dropWhile (p := f) (l := cs))
  rw [List.drop_left] at h
  exact h.symm

theorem leadingDigits_append (h : Digits width ds rest) :
    leadingDigits width (ds ++ rest) = ds := by
  have hrun : (ds ++ rest).takeWhile Char.isDigit = ds ++ rest.takeWhile Char.isDigit :=
    List.takeWhile_append_of_pos h.isDigit
  unfold leadingDigits
  rw [hrun]
  cases width with
  | none =>
    obtain ⟨w, hw, -⟩ | hr := h.longest
    · cases hw
    · rw [hr, List.append_nil]
      rfl
  | some w =>
    show (ds ++ rest.takeWhile Char.isDigit).take w = ds
    obtain ⟨w', hw, hlen⟩ | hr := h.longest
    · cases hw
      rw [← hlen, List.take_left]
    · rw [hr, List.append_nil, List.take_of_length_le (h.length_le w rfl)]

theorem digits_leadingDigits (h : leadingDigits width cs ≠ []) :
    Digits width (leadingDigits width cs) (cs.drop (leadingDigits width cs).length) := by
  have hrest : (cs.drop (cs.takeWhile Char.isDigit).length).takeWhile Char.isDigit = [] := by
    rw [drop_takeWhile_length, takeWhile_dropWhile]
  cases width with
  | none => exact ⟨h, fun _ => List.mem_takeWhile_imp, nofun, .inr hrest⟩
  | some w =>
    refine ⟨h, fun _ hc => List.mem_takeWhile_imp (List.mem_of_mem_take hc), ?_, ?_⟩
    · intro w' hw
      cases hw
      exact List.length_take_le w _
    · rcases Nat.le_total w (cs.takeWhile Char.isDigit).length with hle | hle
      · exact .inl ⟨w, rfl, List.length_take_of_le hle⟩
      · refine .inr ?_
        show (cs.drop ((cs.takeWhile Char.isDigit).take w).length).takeWhile Char.isDigit = []
        rw [List.take_of_length_le hle, hrest]

theorem leadingDigits_append_drop (width : Option Nat) (cs : List Char) :
    leadingDigits width cs ++ cs.drop (leadingDigits width cs).length = cs := by
  refine List.prefix_iff_eq_append.mp ?_
  cases width with
  | none => exact List.takeWhile_prefix _
  | some w => exact (List.take_prefix w _).trans (List.takeWhile_prefix _)

theorem digits?_of_digits (h : Digits width ds rest) :
    Integer.digits? ds = some (Integer.valueFrom 0 ds) :=
  if_pos ⟨h.ne_nil, List.all_eq_true.mpr h.isDigit⟩

/-- The number at the start of a text is made up of digits that are as many as can be. -/
theorem number?_eq_some_iff : number? width cs = some (n, rest) ↔
    ∃ ds, Digits width ds rest ∧ cs = ds ++ rest ∧ n = Integer.valueFrom 0 ds := by
  constructor
  · intro h
    obtain ⟨m, hm, he⟩ := Option.map_eq_some_iff.mp h
    cases he
    have hne : leadingDigits width cs ≠ [] := by
      intro hnil
      rw [hnil] at hm
      cases hm
    have hd := digits_leadingDigits hne
    rw [digits?_of_digits hd] at hm
    exact ⟨_, hd, (leadingDigits_append_drop width cs).symm, (Option.some.inj hm).symm⟩
  · rintro ⟨ds, hd, rfl, rfl⟩
    simp only [number?, leadingDigits_append hd, digits?_of_digits hd, List.drop_left,
      Option.map_some]

/-! ## Fields -/

theorem takeWhile_isBlank_sign (hc : isBlank c = false) : (c :: cs).takeWhile isBlank = [] := by
  refine List.takeWhile_cons_of_neg ?_
  rw [hc]
  exact Bool.false_ne_true

theorem fieldAt_year_of_year? {year : Int} (hb : ∀ c ∈ bs, isBlank c = true)
    (h : year? cs = some (year, rest)) : FieldAt .year (bs ++ cs) year rest := by
  unfold year? at h
  split at h
  all_goals
    obtain ⟨⟨n, left⟩, hn, he⟩ := Option.map_eq_some_iff.mp h
    cases he
    obtain ⟨ds, hd, rfl, rfl⟩ := number?_eq_some_iff.mp hn
  · exact .negative_year hb hd
  · exact .positive_year hb hd
  · exact .year hb hd

theorem year?_digits (h : Digits (some 4) ds rest) :
    year? (ds ++ rest) = some ((Integer.valueFrom 0 ds : Int), rest) := by
  have hnum : number? (some 4) (ds ++ rest) = some (Integer.valueFrom 0 ds, rest) :=
    number?_eq_some_iff.mpr ⟨ds, h, rfl, rfl⟩
  obtain ⟨c, ds', hds⟩ := List.exists_cons_of_ne_nil h.ne_nil
  have hdigit : c.isDigit = true := h.isDigit c (hds ▸ List.mem_cons_self)
  unfold year?
  split
  · rename_i he
    rw [hds] at he
    cases he
    cases hdigit
  · rename_i he
    rw [hds] at he
    cases he
    cases hdigit
  · rw [hnum]
    rfl

theorem part?_eq_some_iff {v : Int} : part? p cs = some (v, rest) ↔
    ∃ ds, Digits (some 2) ds rest ∧ cs = ds ++ rest ∧ v = Integer.valueFrom 0 ds ∧
      p.fits (Integer.valueFrom 0 ds) = true := by
  unfold part?
  constructor
  · intro h
    obtain ⟨⟨n, left⟩, hn, h⟩ := Option.bind_eq_some_iff.mp h
    obtain ⟨ds, hd, hcs, rfl⟩ := number?_eq_some_iff.mp hn
    obtain ⟨hfits, he⟩ := Option.ite_none_right_eq_some.mp h
    cases he
    exact ⟨ds, hd, hcs, rfl, hfits⟩
  · rintro ⟨ds, hd, rfl, rfl, hfits⟩
    rw [number?_eq_some_iff.mpr ⟨ds, hd, rfl, rfl⟩]
    exact if_pos hfits

/-- A fraction is a point with digits behind it, or is missing. -/
theorem fraction?_eq_some_iff {v : Int} :
    fraction? cs = some (v, rest) ↔ FieldAt .fraction cs v rest := by
  constructor
  · intro h
    unfold fraction? at h
    split at h
    · rename_i tail
      obtain ⟨hne, he⟩ := Option.ite_none_left_eq_some.mp h
      cases he
      have hat := FieldAt.fraction (digits_leadingDigits hne)
      rwa [leadingDigits_append_drop] at hat
    · rename_i hpoint
      cases h
      refine .no_fraction fun hhead => ?_
      obtain ⟨tail, rfl⟩ := List.head?_eq_some_iff.mp hhead
      exact hpoint tail rfl
  · intro h
    cases h with
    | no_fraction hhead =>
      unfold fraction?
      split
      · exact absurd rfl hhead
      · rfl
    | fraction hd =>
      simp only [fraction?, leadingDigits_append hd, if_neg hd.ne_nil, List.drop_left]

/-- A field is read exactly where a text begins with it. -/
theorem field?_eq_some_iff {f : Field} {v : Int} :
    field? f cs = some (v, rest) ↔ FieldAt f cs v rest := by
  constructor
  · intro h
    obtain ⟨bs, hb, -, hcs⟩ := exists_blanks cs
    cases f with
    | year =>
      rw [hcs]
      exact fieldAt_year_of_year? hb h
    | part p =>
      obtain ⟨ds, hd, htrim, rfl, hfits⟩ := part?_eq_some_iff.mp h
      rw [hcs, htrim]
      exact .part p hb hd hfits
    | fraction => exact fraction?_eq_some_iff.mp h
  · intro h
    cases h with
    | year hb hd =>
      show year? (trimLeft _) = _
      rw [trimLeft_append _ hb (takeWhile_isBlank_digits hd.ne_nil hd.isDigit), year?_digits hd]
    | positive_year hb hd =>
      show year? (trimLeft _) = _
      rw [trimLeft_append _ hb (takeWhile_isBlank_sign rfl), year?,
        number?_eq_some_iff.mpr ⟨_, hd, rfl, rfl⟩]
      rfl
    | negative_year hb hd =>
      show year? (trimLeft _) = _
      rw [trimLeft_append _ hb (takeWhile_isBlank_sign rfl), year?,
        number?_eq_some_iff.mpr ⟨_, hd, rfl, rfl⟩]
      rfl
    | part p hb hd hfits =>
      show part? p (trimLeft _) = _
      rw [trimLeft_append _ hb (takeWhile_isBlank_digits hd.ne_nil hd.isDigit)]
      exact part?_eq_some_iff.mpr ⟨_, hd, rfl, rfl, hfits⟩
    | no_fraction hhead => exact fraction?_eq_some_iff.mpr (.no_fraction hhead)
    | fraction hd => exact fraction?_eq_some_iff.mpr (.fraction hd)

/-! ## Whole texts -/

theorem after?_eq_some_iff : after? c cs = some rest ↔ cs = c :: rest := by
  cases cs with
  | nil => exact ⟨nofun, nofun⟩
  | cons d cs =>
    rw [after?, Option.ite_none_right_eq_some, Option.some.injEq, List.cons.injEq]

/-- Reading by the items of a format accepts exactly what is written in it. -/
theorem read?_eq_some_iff : read? items cs = some vs ↔ Written items cs vs := by
  induction items generalizing cs vs with
  | nil =>
    rw [read?]
    split
    · rename_i hcs
      rw [hcs, Option.some.injEq]
      constructor
      · rintro rfl
        exact .nothing
      · rintro ⟨⟩
        rfl
    · rename_i hcs
      refine ⟨nofun, ?_⟩
      rintro ⟨⟩
      exact absurd rfl hcs
  | cons item items ih =>
    cases item with
    | literal c =>
      rw [read?]
      simp only [Option.bind_eq_bind, Option.bind_eq_some_iff, after?_eq_some_iff, ih]
      constructor
      · rintro ⟨rest, rfl, h⟩
        exact .literal c h
      · rintro ⟨⟩
        rename_i h
        exact ⟨_, rfl, h⟩
    | blank =>
      rw [read?, ih]
      constructor
      · intro h
        obtain ⟨bs, hb, hr, hcs⟩ := exists_blanks cs
        rw [hcs]
        exact .blank hb hr h
      · rintro ⟨⟩
        rename_i hb hr h
        rwa [trimLeft_append _ hb hr]
    | field f =>
      rw [read?]
      simp only [Option.bind_eq_bind, Option.bind_eq_some_iff, field?_eq_some_iff, ih, Prod.exists]
      constructor
      · rintro ⟨v, rest, hf, vs, h, he⟩
        cases he
        exact .field hf h
      · rintro ⟨⟩
        rename_i h hf
        exact ⟨_, _, hf, _, h, rfl⟩

theorem readFields?_eq {format : String} (known : items? format.toList = some items)
    (text : String) : readFields? (fields items) text format = read? items text.toList := by
  rw [readFields?, known]
  exact if_pos rfl

end Calendar

/-! ## Readers -/

namespace DateReader

open Calendar

variable {reader : DateReader} {format : String} {items : List Calendar.Item}

/-- Going item by item keeps the promise. -/
theorem itemwise_followsFormats : itemwise.FollowsFormats where
  date known complete text d := by
    simp only [itemwise, ← complete, readFields?_eq known, Option.bind_eq_some_iff,
      read?_eq_some_iff]
  timestamp known complete text t := by
    simp only [itemwise, ← complete, readFields?_eq known, Option.bind_eq_some_iff,
      read?_eq_some_iff]

/-- Every reader that keeps the promise reads days item by item. -/
theorem FollowsFormats.date?_eq (h : reader.FollowsFormats)
    (known : items? format.toList = some items) (complete : fields items = dateFields)
    (text : String) :
    reader.date? text format = (read? items text.toList).bind Date.ofFields? := by
  apply Option.ext
  intro d
  rw [h.date known complete]
  simp only [Option.bind_eq_some_iff, read?_eq_some_iff]

theorem FollowsFormats.timestamp?_eq (h : reader.FollowsFormats)
    (known : items? format.toList = some items) (complete : fields items = timestampFields)
    (text : String) :
    reader.timestamp? text format = (read? items text.toList).bind Timestamp.ofFields? := by
  apply Option.ext
  intro t
  rw [h.timestamp known complete]
  simp only [Option.bind_eq_some_iff, read?_eq_some_iff]

end DateReader

end ResultFlow
