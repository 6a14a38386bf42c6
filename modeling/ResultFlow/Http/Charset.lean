import ResultFlow.Stream.Queue
import ResultFlow.Text

/-!
# Charsets

The text of a body by the charset that its content type names: UTF-8 unless another is named, UTF-16
in both byte orders, and the Latin alphabet of Western Europe. A byte order mark at the start goes
before the name and is no part of the text. Bytes that write no character become U+FFFD.
-/

namespace ResultFlow

/-- An encoding of text in bytes. -/
inductive Charset
  | utf8
  | utf16 (bigEndian : Bool)
  | latin
  deriving DecidableEq

namespace Charset

/-- The character that stands for bytes without meaning. -/
def replacement : Char := Char.ofNat 0xFFFD

/-! ## UTF-8 -/

/-- A character of several bytes that is not complete: how many bytes are missing, the bounds of the
next one, and the value so far. -/
structure Pending where
  missing : Nat
  low : Nat
  high : Nat
  value : Nat

/-- The start of a character of several bytes. -/
def lead? (b : Nat) : Option Pending :=
  if 0xC2 ≤ b ∧ b ≤ 0xDF then some ⟨1, 0x80, 0xBF, b - 0xC0⟩
  else if b = 0xE0 then some ⟨2, 0xA0, 0xBF, 0⟩
  else if b = 0xED then some ⟨2, 0x80, 0x9F, 0xD⟩
  else if 0xE1 ≤ b ∧ b ≤ 0xEF then some ⟨2, 0x80, 0xBF, b - 0xE0⟩
  else if b = 0xF0 then some ⟨3, 0x90, 0xBF, 0⟩
  else if 0xF1 ≤ b ∧ b ≤ 0xF3 then some ⟨3, 0x80, 0xBF, b - 0xF0⟩
  else if b = 0xF4 then some ⟨3, 0x80, 0x8F, 4⟩
  else none

/-- A byte at the start of a character: the characters that it completes, last first. -/
def begin (done : List Char) (b : Nat) : Option Pending × List Char :=
  if b < 0x80 then (none, Char.ofNat b :: done)
  else match lead? b with
    | some p => (some p, done)
    | none => (none, replacement :: done)

/-- A byte of a text. A character that the byte cannot go on is replaced, and the byte starts anew.
-/
def step (state : Option Pending × List Char) (byte : UInt8) : Option Pending × List Char :=
  let b := byte.toNat
  match state with
  | (none, done) => begin done b
  | (some p, done) =>
    if p.low ≤ b ∧ b ≤ p.high then
      let value := 64 * p.value + (b - 0x80)
      if p.missing = 1 then (none, Char.ofNat value :: done)
      else (some ⟨p.missing - 1, 0x80, 0xBF, value⟩, done)
    else begin (replacement :: done) b

/-- The characters of UTF-8. -/
def utf8Text (bytes : Bytes) : List Char :=
  match bytes.foldl step (none, []) with
  | (none, done) => done.reverse
  | (some _, done) => (replacement :: done).reverse

/-! ## UTF-16 -/

/-- The 16-bit units of bytes; `none` for a byte that is left over. -/
def units (bigEndian : Bool) : Bytes → List (Option Nat)
  | a :: b :: r =>
    let unit := if bigEndian then 256 * a.toNat + b.toNat else 256 * b.toNat + a.toNat
    some unit :: units bigEndian r
  | [_] => [none]
  | [] => []

/-- The characters of 16-bit units. -/
def utf16Text : List (Option Nat) → List Char
  | some u :: some v :: r =>
    if 0xD800 ≤ u ∧ u < 0xDC00 ∧ 0xDC00 ≤ v ∧ v < 0xE000 then
      Char.ofNat (0x10000 + (u - 0xD800) * 0x400 + (v - 0xDC00)) :: utf16Text r
    else unit u :: utf16Text (some v :: r)
  | some u :: r => unit u :: utf16Text r
  | none :: _ => [replacement]
  | [] => []
where
  /-- A unit that is no half of a pair. -/
  unit (u : Nat) : Char := if 0xD800 ≤ u ∧ u < 0xE000 then replacement else Char.ofNat u

/-! ## Latin -/

/-- The characters of the bytes from 80 to 9F. -/
def latinHigh : List Nat :=
  [0x20AC, 0x81, 0x201A, 0x0192, 0x201E, 0x2026, 0x2020, 0x2021, 0x02C6, 0x2030, 0x0160, 0x2039,
    0x0152, 0x8D, 0x017D, 0x8F, 0x90, 0x2018, 0x2019, 0x201C, 0x201D, 0x2022, 0x2013, 0x2014,
    0x02DC, 0x2122, 0x0161, 0x203A, 0x0153, 0x9D, 0x017E, 0x0178]

/-- The character of a byte. -/
def latinChar (byte : UInt8) : Char :=
  let b := byte.toNat
  Char.ofNat (if 0x80 ≤ b ∧ b < 0xA0 then latinHigh[b - 0x80]?.getD b else b)

/-! ## Choosing -/

/-- The names by which a charset goes. -/
def names : Charset → List String
  | utf8 =>
    ["utf-8", "utf8", "unicode-1-1-utf-8", "unicode11utf8", "unicode20utf8", "x-unicode20utf8"]
  | utf16 false =>
    ["utf-16", "utf-16le", "ucs-2", "unicode", "unicodefeff", "csunicode", "iso-10646-ucs-2"]
  | utf16 true => ["utf-16be", "unicodefffe"]
  | latin =>
    ["windows-1252", "x-cp1252", "cp1252", "iso-8859-1", "iso8859-1", "iso88591", "iso_8859-1",
      "iso_8859-1:1987", "iso-ir-100", "csisolatin1", "cp819", "ibm819", "l1", "latin1", "ascii",
      "us-ascii", "ansi_x3.4-1968"]

/-- The charset that goes by a name. -/
def ofName? (name : String) : Option Charset :=
  let name := Text.lower (String.ofList (Text.trim name.toList))
  [utf8, utf16 false, utf16 true, latin].find? (·.names.contains name)

/-- The charset of a byte order mark, and the bytes after it. -/
def ofMark? : Bytes → Option (Charset × Bytes)
  | 0xEF :: 0xBB :: 0xBF :: r => some (utf8, r)
  | 0xFF :: 0xFE :: r => some (utf16 false, r)
  | 0xFE :: 0xFF :: r => some (utf16 true, r)
  | _ => none

/-- The text of bytes. -/
def decode (c : Charset) (bytes : Bytes) : String :=
  let (c, bytes) := (ofMark? bytes).getD (c, bytes)
  String.ofList (match c with
    | utf8 => utf8Text bytes
    | utf16 bigEndian => utf16Text (units bigEndian bytes)
    | latin => bytes.map latinChar)

/-! ## Content types -/

/-- A character of a name in a content type. -/
def isTokenChar (c : Char) : Bool :=
  c.isAlphanum || "!#$%&'*+-.^_\x60|~".toList.contains c

/-- A value without the quotes around it. -/
def unquoted (s : List Char) : List Char :=
  match s with
  | '"' :: r => r.takeWhile (· ≠ '"')
  | _ => s

/-- The charset that a content type names; UTF-8 when it names none that is known. -/
def ofContentType (type : Option String) : Charset :=
  match (type.getD "").splitOn ";" with
  | kind :: parameters =>
    match kind.splitOn "/" with
    | [a, b] =>
      let known (s : String) : Bool :=
        let t := Text.trim s.toList
        t ≠ [] && t.all isTokenChar
      if known a && known b then
        let value? (p : String) : Option String :=
          match p.toList.span (· ≠ '=') with
          | (name, _ :: value) =>
            if Text.sameIgnoringCase (String.ofList (Text.trim name)) "charset" then
              some (String.ofList (unquoted (Text.trim value)))
            else none
          | _ => none
        ((parameters.findSome? value?).bind ofName?).getD utf8
      else utf8
    | _ => utf8
  | [] => utf8

end Charset

end ResultFlow
