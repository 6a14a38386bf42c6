import ResultFlow.Json.Printer
import ResultFlow.Proofs.Json.Reading
import ResultFlow.Proofs.Number.Digits

/-!
# Printed values

What `Json.print` makes of a value is a text that writes it, so that the value is read back from it
(`presents_print`, `read?_print`). Every string may be printed: a character is escaped, by its short
name or its code unit, or it may stand for itself (`escape_cases`). A number is printed as it is
spelled, which must be a spelling of a number (`Spelled`).
-/

namespace ResultFlow.Json

/-! ## Strings -/

/-- A character is printed in one of the forms that the grammar has for it. -/
theorem escape_cases (c : Char) :
    (∃ e, (e, c) ∈ shortEscapes ∧ escape c = ['\\', e]) ∨
    (c.toNat < 0x20 ∧ escape c =
      ['\\', 'u', '0', '0', Nat.digitChar (c.toNat / 16), Nat.digitChar (c.toNat % 16)]) ∨
    (0x20 ≤ c.toNat ∧ c ≠ '"' ∧ c ≠ '\\' ∧ escape c = [c]) := by
  rw [escape.eq_def]
  split
  case h_1 => exact .inl ⟨'"', by decide, rfl⟩
  case h_2 => exact .inl ⟨'\\', by decide, rfl⟩
  case h_3 => exact .inl ⟨'b', by decide, rfl⟩
  case h_4 => exact .inl ⟨'f', by decide, rfl⟩
  case h_5 => exact .inl ⟨'n', by decide, rfl⟩
  case h_6 => exact .inl ⟨'r', by decide, rfl⟩
  case h_7 => exact .inl ⟨'t', by decide, rfl⟩
  case h_8 hq hb _ _ _ _ _ =>
    by_cases hc : c.toNat < 0x20
    · rw [if_pos hc]
      exact .inr (.inl ⟨hc, rfl⟩)
    · rw [if_neg hc]
      exact .inr (.inr ⟨Nat.le_of_not_lt hc, hq, hb, rfl⟩)

/-- The code unit of a control character. -/
theorem hex_of_lt {n : Nat} (hn : n < 0x20) :
    Hex n ['0', '0', Nat.digitChar (n / 16), Nat.digitChar (n % 16)] := by
  have ha : HexDigit (n / 4096) '0' := by
    rw [Nat.div_eq_of_lt (by omega)]
    exact ⟨by decide, .inl rfl⟩
  have hb : HexDigit (n / 256 % 16) '0' := by
    rw [Nat.div_eq_of_lt (by omega)]
    exact ⟨by decide, .inl rfl⟩
  have hc : HexDigit (n / 16 % 16) (Nat.digitChar (n / 16)) := by
    rw [Nat.mod_eq_of_lt (by omega)]
    exact ⟨by omega, .inl rfl⟩
  exact .digits ha hb hc ⟨Nat.mod_lt n (by decide), .inl rfl⟩

/-- A printed character in front of a string. -/
theorem written_escape (c : Char) {ps : List Piece} {w s : List Char} (hw : Written ps w)
    (hs : Joins ps s) : ∃ ps', Written ps' (escape c ++ w) ∧ Joins ps' (c :: s) := by
  rcases escape_cases c with ⟨e, he, hc⟩ | ⟨hlt, hc⟩ | ⟨hle, hq, hb, hc⟩ <;> rw [hc]
  · exact ⟨.char c :: ps, .short he hw, .char hs⟩
  · exact ⟨.unit c.toNat :: ps, .unit (hex_of_lt hlt) hw, .unit (by omega) hs⟩
  · exact ⟨.char c :: ps, .plain hle hq hb hw, .char hs⟩

theorem spells_escape (s : String) : Spells (some s) (s.toList.flatMap escape) := by
  show ∃ ps, Written ps (s.toList.flatMap escape) ∧ Joins ps s.toList
  generalize s.toList = cs
  induction cs with
  | nil => exact ⟨[], .nil, .nil⟩
  | cons c cs ih =>
    obtain ⟨ps, hw, hs⟩ := ih
    exact written_escape c hw hs

/-- Half of a surrogate pair is a string that stands for no text. -/
theorem spells_half_pair : Spells none ['\\', 'u', 'd', '8', '0', '0'] := by
  have hu : Hex 0xD800 ['d', '8', '0', '0'] :=
    .digits ⟨by decide, .inl rfl⟩ ⟨by decide, .inl rfl⟩ ⟨by decide, .inl rfl⟩ ⟨by decide, .inl rfl⟩
  exact ⟨[.unit 0xD800], .unit hu .nil, fun s hs => nomatch joined?_of_joins hs []⟩

/-- A printed string is spelled between quotes. -/
theorem printString_spells (s : Option String) :
    ∃ u, printString s = '"' :: u ++ ['"'] ∧ Spells s u := by
  cases s with
  | some s => exact ⟨_, rfl, spells_escape s⟩
  | none => exact ⟨_, rfl, spells_half_pair⟩

/-! ## Numbers -/

/-- The decimal text of a number is a spelling of it. -/
theorem isNumber_toDigits (n : Nat) : IsNumber (Nat.toDigits 10 n) := by
  refine .inl ⟨Nat.toDigits 10 n, [], [], by simp, ?_, .inl rfl, .inl rfl⟩
  by_cases hn : n = 0
  · exact .inl (by rw [hn, Nat.toDigits_zero])
  · exact .inr ⟨⟨Nat.toDigits_ne_nil, fun c hc =>
      Nat.isDigit_of_mem_toDigits (by decide) (by decide) hc⟩, Integer.head?_toDigits hn⟩

/-! ## Values -/

mutual

/-- Every number in a value is spelled as one. -/
def Spelled : Json → Prop
  | .number l => IsNumber l
  | .array items => SpelledItems items
  | .object members => SpelledMembers members
  | .null | .bool _ | .text _ => True

def SpelledItems : List Json → Prop
  | [] => True
  | v :: vs => Spelled v ∧ SpelledItems vs

def SpelledMembers : List (Option String × Json) → Prop
  | [] => True
  | (_, v) :: ms => Spelled v ∧ SpelledMembers ms

end

theorem spaces_nil : Spaces [] := nofun

/-- A printed name, a colon and a written value make a member. -/
theorem writesMember_print (k : Option String) {v : Json} {w : List Char} (hv : Writes v w) :
    WritesMember k v (printString k ++ ':' :: w) := by
  obtain ⟨u, hu, hk⟩ := printString_spells k
  have hm : WritesMember k v ('"' :: u ++ ['"'] ++ ([] ++ ':' :: ([] ++ (w ++ [])))) :=
    .named hk spaces_nil spaces_nil hv spaces_nil
  rwa [List.nil_append, List.nil_append, List.append_nil, ← hu] at hm

mutual

/-- A printed value is written. -/
theorem writes_print : ∀ {v : Json}, Spelled v → Writes v v.print
  | .null, _ => .null
  | .bool true, _ => .true
  | .bool false, _ => .false
  | .number _, h => .number h
  | .text s, _ => by
    obtain ⟨u, hu, hs⟩ := printString_spells s
    rw [print, hu]
    exact .text hs
  | .array [], _ => .array (.nil spaces_nil)
  | .array (v :: vs), h => by
    obtain ⟨u, hu, hs⟩ := writesItems_print h.2 (writes_print h.1)
    rw [print, List.cons_append, hu]
    exact .array hs
  | .object [], _ => .object (.nil spaces_nil)
  | .object ((k, v) :: ms), h => by
    obtain ⟨u, hu, hs⟩ := writesMembers_print h.2 (writesMember_print k (writes_print h.1))
    rw [print, List.cons_append, List.cons_append, hu]
    exact .object hs

/-- A written item, with the printed ones after it. -/
theorem writesItems_print : ∀ {vs : List Json}, SpelledItems vs → ∀ {v : Json} {w : List Char},
    Writes v w → ∃ u, w ++ printItems vs = u ++ [']'] ∧ WritesItems (v :: vs) u
  | [], _, v, w, hv => by
    have hs : WritesItems [v] ([] ++ (w ++ [])) := .one spaces_nil hv spaces_nil
    rw [List.nil_append, List.append_nil] at hs
    exact ⟨w, rfl, hs⟩
  | v' :: vs, h, v, w, hv => by
    obtain ⟨u, hu, hs⟩ := writesItems_print h.2 (writes_print h.1)
    refine ⟨w ++ ',' :: u, ?_, .more (a := []) (b := []) spaces_nil hv spaces_nil hs⟩
    rw [printItems, List.cons_append, hu, List.append_assoc, List.cons_append]

/-- A written member, with the printed ones after it. -/
theorem writesMembers_print : ∀ {ms : List (Option String × Json)}, SpelledMembers ms →
    ∀ {k : Option String} {v : Json} {w : List Char}, WritesMember k v w →
      ∃ u, w ++ printMembers ms = u ++ ['\x7d'] ∧ WritesMembers ((k, v) :: ms) u
  | [], _, k, v, w, hm => ⟨w, rfl, .one (a := []) spaces_nil hm⟩
  | (k', v') :: ms, h, k, v, w, hm => by
    obtain ⟨u, hu, hs⟩ := writesMembers_print h.2 (writesMember_print k' (writes_print h.1))
    refine ⟨w ++ ',' :: u, ?_, .more (a := []) spaces_nil hm hs⟩
    rw [printMembers, List.cons_append, List.cons_append, hu, List.append_assoc, List.cons_append]

end

/-- A printed value is presented by its text. -/
theorem presents_print {v : Json} (h : Spelled v) : Presents (String.ofList v.print) v :=
  ⟨[], v.print, [], by rw [String.toList_ofList, List.nil_append, List.append_nil], spaces_nil,
    writes_print h, spaces_nil⟩

/-- A value is read back from what it is printed as. -/
theorem read?_print {v : Json} (h : Spelled v) : read? (String.ofList v.print) = some v :=
  read?_of_presents (presents_print h)

end ResultFlow.Json
