import ResultFlow.Json

/-!
# JSON tokens

A JSON text is a sequence of tokens with spaces between them. `Token.scan?` takes a text apart, and
fails where no token begins.
-/

namespace ResultFlow.Json

/-- A token of a JSON text. -/
inductive Token
  | openArray
  | closeArray
  | openObject
  | closeObject
  | comma
  | colon
  | null
  | bool (b : Bool)
  | number (literal : List Char)
  | text (s : Option String)

/-! ## Strings -/

/-- A piece of a written string: a character, or a code unit of UTF-16 written by its number. -/
inductive Piece
  | char (c : Char)
  | unit (n : Nat)

/-- The value of a hexadecimal digit. -/
def hexDigit? (c : Char) : Option Nat :=
  if '0' ≤ c ∧ c ≤ '9' then some (c.toNat - '0'.toNat)
  else if 'a' ≤ c ∧ c ≤ 'f' then some (c.toNat - 'a'.toNat + 10)
  else if 'A' ≤ c ∧ c ≤ 'F' then some (c.toNat - 'A'.toNat + 10)
  else none

/-- The value of four hexadecimal digits. -/
def hex4? (a b c d : Char) : Option Nat := do
  let a ← hexDigit? a
  let b ← hexDigit? b
  let c ← hexDigit? c
  let d ← hexDigit? d
  return ((a * 16 + b) * 16 + c) * 16 + d

/-- The character that stands after a backslash for another one. -/
def escaped? : Char → Option Char
  | '"' => some '"'
  | '\\' => some '\\'
  | '/' => some '/'
  | 'b' => some '\x08'
  | 'f' => some '\x0c'
  | 'n' => some '\n'
  | 'r' => some '\r'
  | 't' => some '\t'
  | _ => none

/-- The pieces up to the closing quote, after those of `done`, and the rest of the text. -/
def pieces? : List Char → List Piece → Option (List Piece × List Char)
  | '"' :: cs, done => some (done.reverse, cs)
  | '\\' :: 'u' :: a :: b :: c :: d :: cs, done =>
    match hex4? a b c d with
    | some n => pieces? cs (.unit n :: done)
    | none => none
  | '\\' :: e :: cs, done =>
    match escaped? e with
    | some c => pieces? cs (.char c :: done)
    | none => none
  | c :: cs, done => if c.toNat < 0x20 then none else pieces? cs (.char c :: done)
  | [], _ => none

def isHighSurrogate (n : Nat) : Bool := 0xD800 ≤ n && n < 0xDC00

def isLowSurrogate (n : Nat) : Bool := 0xDC00 ≤ n && n < 0xE000

/-- The text of the pieces, after the characters of `done`: a high surrogate and the low one after
it make one character, and neither stands for anything alone. -/
def joined? : List Piece → List Char → Option (List Char)
  | [], done => some done.reverse
  | .char c :: ps, done => joined? ps (c :: done)
  | .unit n :: ps, done =>
    if isHighSurrogate n then
      match ps with
      | .unit m :: qs =>
        if isLowSurrogate m then
          joined? qs (Char.ofNat (0x10000 + (n - 0xD800) * 0x400 + (m - 0xDC00)) :: done)
        else none
      | _ => none
    else if isLowSurrogate n then none
    else joined? ps (Char.ofNat n :: done)

/-! ## Numbers -/

/-- The digits at the front of a text, at least one, and the rest. -/
def digits? (cs : List Char) : Option (List Char × List Char) :=
  match cs.takeWhile Char.isDigit with
  | [] => none
  | ds => some (ds, cs.dropWhile Char.isDigit)

/-- The whole part of a number: no zero stands before another digit. -/
def whole? : List Char → Option (List Char × List Char)
  | '0' :: cs => some (['0'], cs)
  | cs => digits? cs

/-- The fraction of a number, if one follows. -/
def fraction : List Char → List Char × List Char
  | '.' :: cs => match digits? cs with
    | some (ds, r) => ('.' :: ds, r)
    | none => ([], '.' :: cs)
  | cs => ([], cs)

/-- The sign of an exponent, if there is one. -/
def exponentSign : List Char → List Char × List Char
  | '+' :: cs => (['+'], cs)
  | '-' :: cs => (['-'], cs)
  | cs => ([], cs)

/-- The exponent of a number, if one follows. -/
def exponent : List Char → List Char × List Char
  | c :: cs =>
    if c = 'e' ∨ c = 'E' then
      let (sign, r) := exponentSign cs
      match digits? r with
      | some (ds, r) => (c :: sign ++ ds, r)
      | none => ([], c :: cs)
    else ([], c :: cs)
  | [] => ([], [])

/-- The number at the front of a text without a sign. -/
def unsigned? (cs : List Char) : Option (List Char × List Char) := do
  let (w, cs) ← whole? cs
  let (f, cs) := fraction cs
  let (e, cs) := exponent cs
  return (w ++ f ++ e, cs)

/-- The number at the front of a text. -/
def number? : List Char → Option (List Char × List Char)
  | '-' :: cs => (unsigned? cs).map fun (n, r) => ('-' :: n, r)
  | cs => unsigned? cs

/-! ## Tokens -/

namespace Token

/-- The token at the front of a text, and the rest. -/
def next? : List Char → Option (Token × List Char)
  | '[' :: cs => some (.openArray, cs)
  | ']' :: cs => some (.closeArray, cs)
  | '\x7b' :: cs => some (.openObject, cs)
  | '\x7d' :: cs => some (.closeObject, cs)
  | ',' :: cs => some (.comma, cs)
  | ':' :: cs => some (.colon, cs)
  | 'n' :: 'u' :: 'l' :: 'l' :: cs => some (.null, cs)
  | 't' :: 'r' :: 'u' :: 'e' :: cs => some (.bool true, cs)
  | 'f' :: 'a' :: 'l' :: 's' :: 'e' :: cs => some (.bool false, cs)
  | '"' :: cs => (pieces? cs []).map fun (ps, r) => (.text ((joined? ps []).map String.ofList), r)
  | cs => (number? cs).map fun (n, r) => (.number n, r)

/-- The tokens of a text after those of `done`; every step takes a character at least, so that as
many steps as characters are enough. -/
def scanFrom : Nat → List Char → List Token → Option (List Token)
  | _, [], done => some done.reverse
  | 0, _ :: _, _ => none
  | n + 1, c :: cs, done =>
    if isSpace c then scanFrom n cs done
    else match next? (c :: cs) with
      | some (t, r) => scanFrom n r (t :: done)
      | none => none

/-- The tokens of a text. -/
def scan? (cs : List Char) : Option (List Token) := scanFrom cs.length cs []

end Token

end ResultFlow.Json
