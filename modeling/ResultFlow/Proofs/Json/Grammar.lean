import ResultFlow.Json.Token

/-!
# The grammar of JSON

Which texts write a value. `Writes v w` says that the characters `w` write the value `v`, with any
spaces between the tokens, any spelling of the strings and members in the order of `v`. A string is
made of pieces (`Written`), which stand for characters in UTF-16 (`Joins`); the grammar allows pieces
that stand for no text.
-/

namespace ResultFlow.Json

/-- What may stand between two tokens. -/
def Spaces (w : List Char) : Prop := ∀ c ∈ w, isSpace c = true

instance (w : List Char) : Decidable (Spaces w) :=
  List.decidableBAll (isSpace · = true) w

/-! ## Strings -/

/-- A hexadecimal digit, in either case. -/
def HexDigit (d : Nat) (c : Char) : Prop :=
  d < 16 ∧ (c = Nat.digitChar d ∨ c = (Nat.digitChar d).toUpper)

/-- A code unit in four hexadecimal digits. -/
inductive Hex (n : Nat) : List Char → Prop
  | digits {a b c d : Char} (ha : HexDigit (n / 4096) a) (hb : HexDigit (n / 256 % 16) b)
      (hc : HexDigit (n / 16 % 16) c) (hd : HexDigit (n % 16) d) : Hex n [a, b, c, d]

/-- What may follow a backslash, and the character that it stands for. -/
def shortEscapes : List (Char × Char) :=
  [('"', '"'), ('\\', '\\'), ('/', '/'), ('b', '\x08'), ('f', '\x0c'), ('n', '\n'), ('r', '\r'),
    ('t', '\t')]

/-- The pieces of a string, and what is written between its quotes. -/
inductive Written : List Piece → List Char → Prop
  | nil : Written [] []
  | plain {c : Char} {ps : List Piece} {w : List Char} (hc : 0x20 ≤ c.toNat) (hq : c ≠ '"')
      (hb : c ≠ '\\') (h : Written ps w) : Written (.char c :: ps) (c :: w)
  | short {e c : Char} {ps : List Piece} {w : List Char} (he : (e, c) ∈ shortEscapes)
      (h : Written ps w) : Written (.char c :: ps) ('\\' :: e :: w)
  | unit {n : Nat} {u : List Char} {ps : List Piece} {w : List Char} (hu : Hex n u)
      (h : Written ps w) : Written (.unit n :: ps) ('\\' :: 'u' :: u ++ w)

/-- The text of pieces: a code unit stands for a character below `0x10000`, and two of them for one
above. -/
inductive Joins : List Piece → List Char → Prop
  | nil : Joins [] []
  | char {c : Char} {ps : List Piece} {s : List Char} (h : Joins ps s) :
      Joins (.char c :: ps) (c :: s)
  | unit {c : Char} {ps : List Piece} {s : List Char} (hc : c.toNat < 0x10000) (h : Joins ps s) :
      Joins (.unit c.toNat :: ps) (c :: s)
  | pair {c : Char} {ps : List Piece} {s : List Char} (hc : 0x10000 ≤ c.toNat) (h : Joins ps s) :
      Joins (.unit (0xD800 + (c.toNat - 0x10000) / 0x400) ::
        .unit (0xDC00 + (c.toNat - 0x10000) % 0x400) :: ps) (c :: s)

/-- A string, and what is written between its quotes. -/
def Spells : Option String → List Char → Prop
  | some s, w => ∃ ps, Written ps w ∧ Joins ps s.toList
  | none, w => ∃ ps, Written ps w ∧ ∀ s, ¬ Joins ps s

/-- Whether a character may stand for itself in a string. -/
def isPlain (c : Char) : Bool := 0x20 ≤ c.toNat && c ≠ '"' && c ≠ '\\'

/-- A text of plain characters may stand for itself. -/
theorem spells_self {s : String} (h : s.toList.all isPlain = true) : Spells (some s) s.toList := by
  show ∃ ps, Written ps s.toList ∧ Joins ps s.toList
  generalize s.toList = cs at h
  induction cs with
  | nil => exact ⟨[], .nil, .nil⟩
  | cons c cs ih =>
    rw [List.all_cons, Bool.and_eq_true] at h
    obtain ⟨hc, hcs⟩ := h
    obtain ⟨ps, hw, hs⟩ := ih hcs
    simp only [isPlain, Bool.and_eq_true, decide_eq_true_eq] at hc
    obtain ⟨⟨hc, hq⟩, hb⟩ := hc
    exact ⟨.char c :: ps, .plain hc hq hb hw, .char hs⟩

/-! ## Numbers -/

def Digits (w : List Char) : Prop := w ≠ [] ∧ ∀ c ∈ w, c.isDigit = true

/-- The whole part of a number has no zero before another digit. -/
def WholePart (w : List Char) : Prop := w = ['0'] ∨ Digits w ∧ w.head? ≠ some '0'

def FractionPart (w : List Char) : Prop := w = [] ∨ ∃ ds, w = '.' :: ds ∧ Digits ds

def ExponentPart (w : List Char) : Prop :=
  w = [] ∨ ∃ e sign ds, w = e :: sign ++ ds ∧ (e = 'e' ∨ e = 'E') ∧
    (sign = [] ∨ sign = ['+'] ∨ sign = ['-']) ∧ Digits ds

/-- The spelling of a number without a sign. -/
def UnsignedNumber (w : List Char) : Prop :=
  ∃ whole frac exp, w = whole ++ frac ++ exp ∧ WholePart whole ∧ FractionPart frac ∧ ExponentPart exp

/-- The spelling of a number. -/
def IsNumber (w : List Char) : Prop := UnsignedNumber w ∨ ∃ u, w = '-' :: u ∧ UnsignedNumber u

/-! ## Values -/

mutual

/-- The characters that write a value. -/
inductive Writes : Json → List Char → Prop
  | null : Writes .null ['n', 'u', 'l', 'l']
  | true : Writes (.bool true) ['t', 'r', 'u', 'e']
  | false : Writes (.bool false) ['f', 'a', 'l', 's', 'e']
  | number {l : List Char} (h : IsNumber l) : Writes (.number l) l
  | text {s : Option String} {w : List Char} (h : Spells s w) : Writes (.text s) ('"' :: w ++ ['"'])
  | array {items : List Json} {w : List Char} (h : WritesItems items w) :
      Writes (.array items) ('[' :: w ++ [']'])
  | object {members : List (Option String × Json)} {w : List Char} (h : WritesMembers members w) :
      Writes (.object members) ('\x7b' :: w ++ ['\x7d'])

/-- What is written between the brackets of an array. -/
inductive WritesItems : List Json → List Char → Prop
  | nil {a : List Char} (ha : Spaces a) : WritesItems [] a
  | one {v : Json} {a w b : List Char} (ha : Spaces a) (hv : Writes v w) (hb : Spaces b) :
      WritesItems [v] (a ++ (w ++ b))
  | more {v v' : Json} {vs : List Json} {a w b u : List Char} (ha : Spaces a) (hv : Writes v w)
      (hb : Spaces b) (h : WritesItems (v' :: vs) u) :
      WritesItems (v :: v' :: vs) (a ++ (w ++ (b ++ ',' :: u)))

/-- What is written between the braces of an object. -/
inductive WritesMembers : List (Option String × Json) → List Char → Prop
  | nil {a : List Char} (ha : Spaces a) : WritesMembers [] a
  | one {name : Option String} {v : Json} {a w : List Char} (ha : Spaces a)
      (h : WritesMember name v w) : WritesMembers [(name, v)] (a ++ w)
  | more {name : Option String} {v : Json} {m : Option String × Json}
      {ms : List (Option String × Json)} {a w u : List Char} (ha : Spaces a)
      (h : WritesMember name v w) (hs : WritesMembers (m :: ms) u) :
      WritesMembers ((name, v) :: m :: ms) (a ++ (w ++ ',' :: u))

/-- A name, its value and the spaces up to the next token. -/
inductive WritesMember : Option String → Json → List Char → Prop
  | named {name : Option String} {v : Json} {u a b w c : List Char} (hu : Spells name u)
      (ha : Spaces a) (hb : Spaces b) (hv : Writes v w) (hc : Spaces c) :
      WritesMember name v ('"' :: u ++ ['"'] ++ (a ++ ':' :: (b ++ (w ++ c))))

end

/-- A text presents a value: it writes it, with spaces around it. -/
def Presents (s : String) (v : Json) : Prop :=
  ∃ a w b, s.toList = a ++ (w ++ b) ∧ Spaces a ∧ Writes v w ∧ Spaces b

end ResultFlow.Json
