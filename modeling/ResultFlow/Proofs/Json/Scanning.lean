import ResultFlow.Proofs.Json.Grammar

/-!
# Taking a written value apart

The scanner finds the tokens of a value in every text that writes it (`scanned_of_writes`).

1. The pieces of a string are found up to its closing quote (`pieces?_of_written`), and they are joined
   to its text, or to none if they stand for no text (`joined?_of_joins`, `joins_of_joined?`).
2. A number is read to its end where no character follows that it may go on with
   (`number?_append`).
3. Token by token the rest of the text is scanned (`Scanned`). Behind a value there is a space, a
   comma, a bracket or nothing (`Ends`), so that a number in front of it ends there.
-/

namespace ResultFlow.Json

/-! ## Strings -/

theorem hexDigit?_of_hexDigit {d : Nat} {c : Char} (h : HexDigit d c) : hexDigit? c = some d := by
  have hall : ∀ d < 16, hexDigit? (Nat.digitChar d) = some d ∧
      hexDigit? (Nat.digitChar d).toUpper = some d := by decide
  obtain ⟨hd, rfl | rfl⟩ := h
  · exact (hall d hd).1
  · exact (hall d hd).2

theorem pieces?_of_hex {n : Nat} {u cs : List Char} (h : Hex n u) (done : List Piece) :
    pieces? ('\\' :: 'u' :: u ++ cs) done = pieces? cs (.unit n :: done) := by
  obtain @⟨a, b, c, d, ha, hb, hc, hd⟩ := h
  have hn : ((n / 4096 * 16 + n / 256 % 16) * 16 + n / 16 % 16) * 16 + n % 16 = n := by omega
  have hx : hex4? a b c d = some n := by
    unfold hex4?
    rw [hexDigit?_of_hexDigit ha, hexDigit?_of_hexDigit hb, hexDigit?_of_hexDigit hc,
      hexDigit?_of_hexDigit hd]
    exact congrArg some hn
  rw [List.cons_append, List.cons_append]
  simp only [List.cons_append, List.nil_append, pieces?, hx]

theorem pieces?_of_plain {c : Char} {cs : List Char} (hc : 0x20 ≤ c.toNat) (hq : c ≠ '"')
    (hb : c ≠ '\\') (done : List Piece) : pieces? (c :: cs) done = pieces? cs (.char c :: done) := by
  rw [pieces?.eq_def]
  split
  · rename_i h
    cases h
    exact absurd rfl hq
  · rename_i h
    cases h
    exact absurd rfl hb
  · rename_i h
    cases h
    exact absurd rfl hb
  · rename_i h
    cases h
    rw [if_neg (Nat.not_lt.mpr hc)]
  · contradiction

theorem pieces?_of_short {e c : Char} {cs : List Char} (he : (e, c) ∈ shortEscapes)
    (done : List Piece) : pieces? ('\\' :: e :: cs) done = pieces? cs (.char c :: done) := by
  simp only [shortEscapes, List.mem_cons, Prod.mk.injEq, List.not_mem_nil, or_false] at he
  obtain ⟨rfl, rfl⟩ | ⟨rfl, rfl⟩ | ⟨rfl, rfl⟩ | ⟨rfl, rfl⟩ | ⟨rfl, rfl⟩ | ⟨rfl, rfl⟩ | ⟨rfl, rfl⟩ |
    ⟨rfl, rfl⟩ := he <;> rfl

/-- The pieces of a string are found up to its closing quote. -/
theorem pieces?_of_written {ps : List Piece} {w : List Char} (h : Written ps w) (r : List Char)
    (done : List Piece) : pieces? (w ++ '"' :: r) done = some (done.reverse ++ ps, r) := by
  induction h generalizing done with
  | nil => rw [List.append_nil]; rfl
  | plain hc hq hb _ ih =>
    rw [List.cons_append, pieces?_of_plain hc hq hb, ih, List.reverse_cons, List.append_assoc]
    rfl
  | short he _ ih =>
    rw [List.cons_append, List.cons_append, pieces?_of_short he, ih, List.reverse_cons,
      List.append_assoc]
    rfl
  | unit hu _ ih =>
    rw [List.append_assoc, pieces?_of_hex hu, ih, List.reverse_cons, List.append_assoc]
    rfl

/-! ## Texts -/

theorem toNat_valid (c : Char) : c.toNat < 0xD800 ∨ 0xDFFF < c.toNat ∧ c.toNat < 0x110000 := c.valid

theorem toNat_ofNat {n : Nat} (h : n < 0xD800 ∨ 0xDFFF < n ∧ n < 0x110000) :
    (Char.ofNat n).toNat = n := by
  have hv : n.isValidChar := h
  rw [Char.ofNat, dif_pos hv]
  rfl

theorem isHighSurrogate_iff {n : Nat} : isHighSurrogate n = true ↔ 0xD800 ≤ n ∧ n < 0xDC00 := by
  simp only [isHighSurrogate, Bool.and_eq_true, decide_eq_true_eq]

theorem isLowSurrogate_iff {n : Nat} : isLowSurrogate n = true ↔ 0xDC00 ≤ n ∧ n < 0xE000 := by
  simp only [isLowSurrogate, Bool.and_eq_true, decide_eq_true_eq]

theorem joined?_unit {n : Nat} (hh : ¬ isHighSurrogate n = true) (hl : ¬ isLowSurrogate n = true)
    (ps : List Piece) (done : List Char) :
    joined? (.unit n :: ps) done = joined? ps (Char.ofNat n :: done) := by
  rw [joined?.eq_def]
  show (if isHighSurrogate n = true then _ else _) = _
  rw [if_neg hh, if_neg hl]

theorem joined?_pair {n m : Nat} (hn : isHighSurrogate n = true) (hm : isLowSurrogate m = true)
    (ps : List Piece) (done : List Char) :
    joined? (.unit n :: .unit m :: ps) done =
      joined? ps (Char.ofNat (0x10000 + (n - 0xD800) * 0x400 + (m - 0xDC00)) :: done) := by
  rw [joined?, if_pos hn, if_pos hm]

theorem joined?_of_joins {ps : List Piece} {s : List Char} (h : Joins ps s) (done : List Char) :
    joined? ps done = some (done.reverse ++ s) := by
  induction h generalizing done with
  | nil => rw [List.append_nil]; rfl
  | char _ ih =>
    rw [joined?, ih, List.reverse_cons, List.append_assoc]
    rfl
  | @unit c ps s _ _ ih =>
    have hv := toNat_valid c
    have hh : ¬ isHighSurrogate c.toNat = true := by rw [isHighSurrogate_iff]; omega
    have hl : ¬ isLowSurrogate c.toNat = true := by rw [isLowSurrogate_iff]; omega
    rw [joined?_unit hh hl, ih, Char.ofNat_toNat, List.reverse_cons, List.append_assoc]
    rfl
  | @pair c ps s hc _ ih =>
    have hv := toNat_valid c
    have hh : isHighSurrogate (0xD800 + (c.toNat - 0x10000) / 0x400) = true := by
      rw [isHighSurrogate_iff]; omega
    have hl : isLowSurrogate (0xDC00 + (c.toNat - 0x10000) % 0x400) = true := by
      rw [isLowSurrogate_iff]; omega
    have hc : 0x10000 + (0xD800 + (c.toNat - 0x10000) / 0x400 - 0xD800) * 0x400 +
        (0xDC00 + (c.toNat - 0x10000) % 0x400 - 0xDC00) = c.toNat := by omega
    rw [joined?_pair hh hl, hc, Char.ofNat_toNat, ih, List.reverse_cons, List.append_assoc]
    rfl

/-- Two code units that make a character are those it is written with. -/
theorem joins_pair {n m : Nat} {c : Char} {ps : List Piece} {s : List Char}
    (hn : isHighSurrogate n = true) (hm : isLowSurrogate m = true)
    (hc : c.toNat = 0x10000 + (n - 0xD800) * 0x400 + (m - 0xDC00)) (h : Joins ps s) :
    Joins (.unit n :: .unit m :: ps) (c :: s) := by
  rw [isHighSurrogate_iff] at hn
  rw [isLowSurrogate_iff] at hm
  have hn' : 0xD800 + (c.toNat - 0x10000) / 0x400 = n := by omega
  have hm' : 0xDC00 + (c.toNat - 0x10000) % 0x400 = m := by omega
  have hp := Joins.pair (show 0x10000 ≤ c.toNat by omega) h
  rwa [hn', hm'] at hp

/-- Pieces that are joined to a text stand for it, if no code unit is too large. -/
theorem joins_of_joined? {ps : List Piece} {done cs : List Char}
    (hp : ∀ n, .unit n ∈ ps → n < 0x10000) (h : joined? ps done = some cs) :
    ∃ s, cs = done.reverse ++ s ∧ Joins ps s := by
  fun_induction joined? ps done with
  | case1 done =>
    cases h
    exact ⟨[], (List.append_nil _).symm, .nil⟩
  | case2 c ps done ih =>
    obtain ⟨s, rfl, hs⟩ := ih (fun n hn => hp n (List.mem_cons_of_mem _ hn)) h
    exact ⟨c :: s, by rw [List.reverse_cons, List.append_assoc]; rfl, .char hs⟩
  | case3 n done hn m ps hm ih =>
    obtain ⟨s, rfl, hs⟩ := ih
      (fun n hn => hp n (List.mem_cons_of_mem _ (List.mem_cons_of_mem _ hn))) h
    refine ⟨_ :: s, by rw [List.reverse_cons, List.append_assoc]; rfl,
      joins_pair hn hm (toNat_ofNat ?_) hs⟩
    rw [isHighSurrogate_iff] at hn
    rw [isLowSurrogate_iff] at hm
    omega
  | case7 n ps done hn hm ih =>
    obtain ⟨s, rfl, hs⟩ := ih (fun n hn => hp n (List.mem_cons_of_mem _ hn)) h
    have hlt := hp n List.mem_cons_self
    rw [isHighSurrogate_iff] at hn
    rw [isLowSurrogate_iff] at hm
    have hc := toNat_ofNat (n := n) (by omega)
    have hu := Joins.unit (by rw [hc]; exact hlt) hs
    rw [hc] at hu
    exact ⟨_ :: s, by rw [List.reverse_cons, List.append_assoc]; rfl, hu⟩
  | _ => cases h

/-- The code units of a string have four hexadecimal digits. -/
theorem unit_lt_of_written {ps : List Piece} {w : List Char} (h : Written ps w) :
    ∀ n, .unit n ∈ ps → n < 0x10000 := by
  induction h with
  | nil => exact fun n hn => nomatch hn
  | plain _ _ _ _ ih | short _ _ ih =>
    intro n hn
    rcases List.mem_cons.mp hn with hn | hn
    · cases hn
    · exact ih n hn
  | unit hu _ ih =>
    intro n hn
    rcases List.mem_cons.mp hn with hn | hn
    · cases hn
      obtain ⟨ha, -, -, -⟩ := hu
      have := ha.1
      omega
    · exact ih n hn

/-- A string is read to its end, and its text is found if it has one. -/
theorem string_of_spells {s : Option String} {w : List Char} (h : Spells s w) (r : List Char) :
    (pieces? (w ++ '"' :: r) []).map
      (fun p => (Token.text ((joined? p.1 []).map String.ofList), p.2)) = some (.text s, r) := by
  cases s with
  | some s =>
    obtain ⟨ps, hw, hs⟩ := h
    rw [pieces?_of_written hw, Option.map_some, List.reverse_nil, List.nil_append,
      joined?_of_joins hs]
    exact congrArg (fun t => some (Token.text (some t), r)) String.ofList_toList
  | none =>
    obtain ⟨ps, hw, hs⟩ := h
    have hj : joined? ps [] = none := by
      rw [Option.eq_none_iff_forall_ne_some]
      intro cs hcs
      obtain ⟨s, -, hj⟩ := joins_of_joined? (unit_lt_of_written hw) hcs
      exact hs s hj
    rw [pieces?_of_written hw, Option.map_some, List.reverse_nil, List.nil_append, hj]
    rfl

/-! ## Numbers -/

/-- What a number does not go on with, by a predicate on characters. -/
def StopsAt (p : Char → Prop) (r : List Char) : Prop := ∀ c cs, r = c :: cs → ¬ p c

theorem digits?_append {ds r : List Char} (h : Digits ds) (hr : StopsAt (·.isDigit = true) r) :
    digits? (ds ++ r) = some (ds, r) := by
  have ht : r.takeWhile Char.isDigit = [] ∧ r.dropWhile Char.isDigit = r := by
    cases r with
    | nil => exact ⟨rfl, rfl⟩
    | cons c r =>
      have hc := hr c r rfl
      exact ⟨List.takeWhile_cons_of_neg hc, List.dropWhile_cons_of_neg hc⟩
  rw [digits?, List.takeWhile_append_of_pos h.2, List.dropWhile_append_of_pos h.2, ht.1, ht.2,
    List.append_nil]
  split
  · exact absurd rfl h.1
  · rfl

theorem whole?_append {w r : List Char} (h : WholePart w) (hr : StopsAt (·.isDigit = true) r) :
    whole? (w ++ r) = some (w, r) := by
  obtain rfl | ⟨hd, hz⟩ := h
  · rfl
  · rw [whole?.eq_def]
    split
    · rename_i he
      obtain ⟨d, ds, rfl⟩ := List.exists_cons_of_ne_nil hd.1
      cases he
      exact absurd rfl hz
    · exact digits?_append hd hr

theorem fraction_append {w r : List Char} (h : FractionPart w)
    (hr : StopsAt (fun c => c.isDigit = true ∨ c = '.') r) : fraction (w ++ r) = (w, r) := by
  obtain rfl | ⟨ds, rfl, hd⟩ := h
  · rw [List.nil_append, fraction.eq_def]
    split
    · exact absurd (.inr rfl) (hr _ _ rfl)
    · rfl
  · have hx := digits?_append hd fun c cs he hc => hr c cs he (.inl hc)
    rw [List.cons_append, fraction, hx]

theorem exponentSign_append {sign ds r : List Char} (hs : sign = [] ∨ sign = ['+'] ∨ sign = ['-'])
    (hd : Digits ds) : exponentSign (sign ++ (ds ++ r)) = (sign, ds ++ r) := by
  obtain rfl | rfl | rfl := hs
  · obtain ⟨d, ds, rfl⟩ := List.exists_cons_of_ne_nil hd.1
    have hdigit := hd.2 d List.mem_cons_self
    rw [List.nil_append, List.cons_append, exponentSign.eq_def]
    split
    · rename_i he
      cases he
      exact absurd hdigit (by decide)
    · rename_i he
      cases he
      exact absurd hdigit (by decide)
    · rfl
  · rfl
  · rfl

theorem exponent_append {w r : List Char} (h : ExponentPart w)
    (hr : StopsAt (fun c => c.isDigit = true ∨ c = 'e' ∨ c = 'E') r) :
    exponent (w ++ r) = (w, r) := by
  obtain rfl | ⟨e, sign, ds, rfl, he, hs, hd⟩ := h
  · cases r with
    | nil => rfl
    | cons c r =>
      rw [List.nil_append, exponent, if_neg fun hc => hr c r rfl (.inr hc)]
  · have hx := digits?_append hd fun c cs he hc => hr c cs he (.inl hc)
    rw [List.cons_append, List.cons_append, List.append_assoc, exponent, if_pos he,
      exponentSign_append hs hd]
    dsimp only
    rw [hx]
    rfl

/-- The characters that a number may go on with. -/
def Continues (c : Char) : Prop := c.isDigit = true ∨ c = '.' ∨ c = 'e' ∨ c = 'E'

theorem StopsAt.imp {p q : Char → Prop} {r : List Char} (h : StopsAt p r) (hqp : ∀ c, q c → p c) :
    StopsAt q r := fun c cs he hc => h c cs he (hqp c hc)

theorem stopsAt_exponent {w r : List Char} (h : ExponentPart w) (hr : StopsAt Continues r) :
    StopsAt (fun c => c.isDigit = true ∨ c = '.') (w ++ r) := by
  obtain rfl | ⟨e, sign, ds, rfl, he, -, -⟩ := h
  · exact hr.imp fun c hc => hc.imp_right .inl
  · intro c cs hcs
    cases hcs
    obtain rfl | rfl := he <;> decide

theorem stopsAt_fraction {w r : List Char} (h : FractionPart w)
    (hr : StopsAt (fun c => c.isDigit = true ∨ c = '.') r) :
    StopsAt (·.isDigit = true) (w ++ r) := by
  obtain rfl | ⟨ds, rfl, -⟩ := h
  · exact hr.imp fun c => .inl
  · intro c cs hcs
    cases hcs
    decide

theorem unsigned?_append {w r : List Char} (h : UnsignedNumber w) (hr : StopsAt Continues r) :
    unsigned? (w ++ r) = some (w, r) := by
  obtain ⟨whole, frac, exp, rfl, hw, hf, he⟩ := h
  have hx := stopsAt_exponent he hr
  rw [List.append_assoc, List.append_assoc, unsigned?, whole?_append hw (stopsAt_fraction hf hx)]
  show some (whole ++ (fraction (frac ++ (exp ++ r))).1 ++
    (exponent (fraction (frac ++ (exp ++ r))).2).1,
    (exponent (fraction (frac ++ (exp ++ r))).2).2) = _
  rw [fraction_append hf hx, exponent_append he (hr.imp fun c hc => hc.imp_right .inr)]

theorem head_of_unsignedNumber {w : List Char} (h : UnsignedNumber w) :
    ∃ c cs, w = c :: cs ∧ c.isDigit = true := by
  obtain ⟨whole, frac, exp, rfl, rfl | ⟨⟨hne, hd⟩, -⟩, -, -⟩ := h
  · exact ⟨'0', frac ++ exp, rfl, rfl⟩
  · obtain ⟨c, cs, rfl⟩ := List.exists_cons_of_ne_nil hne
    exact ⟨c, cs ++ frac ++ exp, rfl, hd c List.mem_cons_self⟩

theorem head_of_isNumber {w : List Char} (h : IsNumber w) :
    ∃ c cs, w = c :: cs ∧ (c = '-' ∨ c.isDigit = true) := by
  obtain hu | ⟨u, rfl, -⟩ := h
  · obtain ⟨c, cs, rfl, hc⟩ := head_of_unsignedNumber hu
    exact ⟨c, cs, rfl, .inr hc⟩
  · exact ⟨'-', u, rfl, .inl rfl⟩

/-- A number is read to its end. -/
theorem number?_append {w r : List Char} (h : IsNumber w) (hr : StopsAt Continues r) :
    number? (w ++ r) = some (w, r) := by
  obtain hu | ⟨u, rfl, hu⟩ := h
  · have hx := unsigned?_append hu hr
    obtain ⟨c, cs, rfl, hc⟩ := head_of_unsignedNumber hu
    rw [number?.eq_def]
    split
    · rename_i he
      cases he
      exact absurd hc (by decide)
    · exact hx
  · show (unsigned? (u ++ r)).map _ = _
    rw [unsigned?_append hu hr]
    rfl

/-! ## Tokens -/

mutual

/-- The tokens of a value. -/
def tokens : Json → List Token
  | .null => [.null]
  | .bool b => [.bool b]
  | .number l => [.number l]
  | .text s => [.text s]
  | .array items => .openArray :: (itemTokens items ++ [.closeArray])
  | .object members => .openObject :: (memberTokens members ++ [.closeObject])

/-- The tokens between the brackets of an array. -/
def itemTokens : List Json → List Token
  | [] => []
  | [v] => tokens v
  | v :: v' :: vs => tokens v ++ .comma :: itemTokens (v' :: vs)

/-- The tokens between the braces of an object. -/
def memberTokens : List (Option String × Json) → List Token
  | [] => []
  | [(name, v)] => .text name :: .colon :: tokens v
  | (name, v) :: m :: ms => .text name :: .colon :: (tokens v ++ .comma :: memberTokens (m :: ms))

end

/-- What may follow a value: nothing, a space, or the end of an item or member. -/
def Ends (r : List Char) : Prop :=
  ∀ c cs, r = c :: cs → isSpace c = true ∨ c = ',' ∨ c = ']' ∨ c = '\x7d'

theorem Ends.stopsAt {r : List Char} (h : Ends r) : StopsAt Continues r := by
  intro c cs hc
  have hs : isSpace c = true → ¬ Continues c := by
    unfold isSpace
    simp only [Bool.or_eq_true, decide_eq_true_eq]
    rintro (((rfl | rfl) | rfl) | rfl) <;> unfold Continues <;> decide
  obtain h | rfl | rfl | rfl := h c cs hc
  · exact hs h
  all_goals
    unfold Continues
    decide

/-- In front of an end there may be spaces. -/
theorem Ends.spaces {a r : List Char} (ha : Spaces a) (h : Ends r) : Ends (a ++ r) := by
  cases a with
  | nil => exact h
  | cons c a =>
    intro c' cs hc
    cases hc
    exact .inl (ha c List.mem_cons_self)

/-- These characters consist of these tokens. -/
def Scanned (cs : List Char) (ts : List Token) : Prop :=
  ∀ n done, cs.length ≤ n → Token.scanFrom n cs done = some (done.reverse ++ ts)

theorem scanned_nil : Scanned [] [] := fun n done _ => by
  rw [Token.scanFrom, List.append_nil]

theorem Scanned.spaces {a cs : List Char} {ts : List Token} (ha : Spaces a) (h : Scanned cs ts) :
    Scanned (a ++ cs) ts := by
  induction a with
  | nil => exact h
  | cons c a ih =>
    intro n done hn
    cases n with
    | zero => exact absurd hn (Nat.not_succ_le_zero _)
    | succ n =>
      rw [List.cons_append, Token.scanFrom, if_pos (ha c List.mem_cons_self)]
      exact ih (fun c hc => ha c (List.mem_cons_of_mem _ hc)) n done (Nat.le_of_succ_le_succ hn)

/-- A token in front. -/
theorem Scanned.token {w cs : List Char} {t : Token} {ts : List Token} (hw : w ≠ [])
    (hs : ∀ c ∈ w.head?, isSpace c = false) (ht : Token.next? (w ++ cs) = some (t, cs))
    (h : Scanned cs ts) : Scanned (w ++ cs) (t :: ts) := by
  obtain ⟨c, w, rfl⟩ := List.exists_cons_of_ne_nil hw
  intro n done hn
  rw [List.cons_append] at hn ht ⊢
  rw [List.length_cons, List.length_append] at hn
  cases n with
  | zero => exact absurd hn (Nat.not_succ_le_zero _)
  | succ n =>
    rw [Token.scanFrom, hs c rfl, if_neg Bool.false_ne_true, ht]
    show Token.scanFrom n cs (t :: done) = _
    rw [h n (t :: done) (by omega), List.reverse_cons, List.append_assoc]
    rfl

theorem next?_of_head {c : Char} {cs : List Char} (hc : c = '-' ∨ c.isDigit = true) :
    Token.next? (c :: cs) = (number? (c :: cs)).map fun (n, r) => (.number n, r) := by
  rw [Token.next?.eq_def]
  split
  case h_11 => rfl
  all_goals
    rename_i he
    cases he
    exact absurd hc (by decide)

theorem scanned_number {l r : List Char} {ts : List Token} (hl : IsNumber l)
    (hr : StopsAt Continues r) (h : Scanned r ts) : Scanned (l ++ r) (.number l :: ts) := by
  have hn := number?_append hl hr
  obtain ⟨c, cs, rfl, hc⟩ := head_of_isNumber hl
  refine h.token (List.cons_ne_nil _ _) ?_ ?_
  · intro c' hc'
    cases hc'
    unfold isSpace
    simp only [Bool.or_eq_false_iff, decide_eq_false_iff_not]
    refine ⟨⟨⟨?_, ?_⟩, ?_⟩, ?_⟩ <;> rintro rfl <;> exact absurd hc (by decide)
  · rw [List.cons_append] at hn ⊢
    rw [next?_of_head hc, hn]
    rfl

theorem scanned_string {s : Option String} {w r : List Char} {ts : List Token} (hw : Spells s w)
    (h : Scanned r ts) : Scanned ('"' :: w ++ ['"'] ++ r) (.text s :: ts) := by
  refine h.token (List.cons_ne_nil _ _) (fun c hc => by cases hc; rfl) ?_
  rw [List.append_assoc]
  exact string_of_spells hw r

/-- A token of one character. -/
theorem scanned_cons {c : Char} {r : List Char} {t : Token} {ts : List Token}
    (hc : isSpace c = false) (ht : Token.next? (c :: r) = some (t, r)) (h : Scanned r ts) :
    Scanned (c :: r) (t :: ts) :=
  Scanned.token (w := [c]) (List.cons_ne_nil _ _) (fun c' hc' => by cases hc'; exact hc) ht h

theorem ends_cons {c : Char} {r : List Char} (hc : c = ',' ∨ c = ']' ∨ c = '\x7d') :
    Ends (c :: r) := fun c' cs he => by
  cases he
  exact .inr hc

mutual

/-- The tokens of a value are found in every text that writes it. -/
theorem scanned_of_writes {v : Json} {w : List Char} : Writes v w → ∀ {r : List Char}
    {ts : List Token}, Ends r → Scanned r ts → Scanned (w ++ r) (tokens v ++ ts)
  | .null, _, _, _, h => h.token (List.cons_ne_nil _ _) (fun c hc => by cases hc; rfl) rfl
  | .true, _, _, _, h => h.token (List.cons_ne_nil _ _) (fun c hc => by cases hc; rfl) rfl
  | .false, _, _, _, h => h.token (List.cons_ne_nil _ _) (fun c hc => by cases hc; rfl) rfl
  | .number hl, _, _, hr, h => scanned_number hl hr.stopsAt h
  | .text hs, _, _, _, h => scanned_string hs h
  | .array hi, r, ts, _, h => by
    have hend : Scanned (']' :: r) (.closeArray :: ts) := scanned_cons rfl rfl h
    have hitems := scanned_of_items hi (ends_cons (.inr (.inl rfl))) hend
    rw [tokens]
    simp only [List.cons_append, List.append_assoc, List.nil_append]
    exact scanned_cons rfl rfl hitems
  | .object hm, r, ts, _, h => by
    have hend : Scanned ('\x7d' :: r) (.closeObject :: ts) := scanned_cons rfl rfl h
    have hmembers := scanned_of_members hm (ends_cons (.inr (.inr rfl))) hend
    rw [tokens]
    simp only [List.cons_append, List.append_assoc, List.nil_append]
    exact scanned_cons rfl rfl hmembers

theorem scanned_of_items {vs : List Json} {w : List Char} : WritesItems vs w → ∀ {r : List Char}
    {ts : List Token}, Ends r → Scanned r ts → Scanned (w ++ r) (itemTokens vs ++ ts)
  | .nil ha, _, _, _, h => h.spaces ha
  | .one ha hv hb, _, _, hr, h => by
    rw [List.append_assoc, List.append_assoc]
    exact (scanned_of_writes hv (hr.spaces hb) (h.spaces hb)).spaces ha
  | .more (u := u) ha hv hb hs, r, ts, hr, h => by
    have hrest : Scanned (',' :: (u ++ r)) (.comma :: (_ ++ ts)) :=
      scanned_cons rfl rfl (scanned_of_items hs hr h)
    have hends : Ends (',' :: (u ++ r)) := ends_cons (.inl rfl)
    rw [itemTokens]
    simp only [List.append_assoc, List.cons_append]
    exact (scanned_of_writes hv (hends.spaces hb) (hrest.spaces hb)).spaces ha

theorem scanned_of_members {ms : List (Option String × Json)} {w : List Char} :
    WritesMembers ms w → ∀ {r : List Char} {ts : List Token}, Ends r → Scanned r ts →
      Scanned (w ++ r) (memberTokens ms ++ ts)
  | .nil ha, _, _, _, h => h.spaces ha
  | .one ha hm, _, _, hr, h => by
    rw [List.append_assoc]
    exact (scanned_of_member hm hr h).spaces ha
  | .more (u := u) ha hm hs, r, ts, hr, h => by
    have hrest : Scanned (',' :: (u ++ r)) (.comma :: (_ ++ ts)) :=
      scanned_cons rfl rfl (scanned_of_members hs hr h)
    rw [memberTokens]
    simp only [List.append_assoc, List.cons_append]
    exact (scanned_of_member hm (ends_cons (.inl rfl)) hrest).spaces ha

theorem scanned_of_member {name : Option String} {v : Json} {w : List Char} :
    WritesMember name v w → ∀ {r : List Char} {ts : List Token}, Ends r → Scanned r ts →
      Scanned (w ++ r) (.text name :: .colon :: (tokens v ++ ts))
  | .named hu ha hb hv hc, r, ts, hr, h => by
    have hvalue := (scanned_of_writes hv (hr.spaces hc) (h.spaces hc)).spaces hb
    have hcolon : Scanned (':' :: (_ ++ (_ ++ (_ ++ r)))) (.colon :: (tokens v ++ ts)) :=
      scanned_cons rfl rfl hvalue
    have hname := scanned_string hu (hcolon.spaces ha)
    simpa only [List.append_assoc, List.cons_append] using hname

end

end ResultFlow.Json
