import ResultFlow.Json

/-!
# Writing JSON

`Json.print` writes a value without spaces. In strings a quote, a backslash and the control
characters are escaped, and all others stand for themselves.
-/

namespace ResultFlow.Json

/-- The written form of a character in a string. -/
def escape (c : Char) : List Char :=
  match c with
  | '"' => ['\\', '"']
  | '\\' => ['\\', '\\']
  | '\x08' => ['\\', 'b']
  | '\x0c' => ['\\', 'f']
  | '\n' => ['\\', 'n']
  | '\r' => ['\\', 'r']
  | '\t' => ['\\', 't']
  | c =>
    if c.toNat < 0x20 then
      ['\\', 'u', '0', '0', Nat.digitChar (c.toNat / 16), Nat.digitChar (c.toNat % 16)]
    else [c]

/-- The written form of a text. -/
def printText (s : String) : List Char := '"' :: s.toList.flatMap escape ++ ['"']

/-- The written form of a string; one that is no text is written as half of a surrogate pair. -/
def printString : Option String → List Char
  | some s => printText s
  | none => "\"\\ud800\"".toList

mutual

/-- The written form of a value. -/
def print : Json → List Char
  | .null => "null".toList
  | .bool b => (if b then "true" else "false").toList
  | .number l => l
  | .text s => printString s
  | .array [] => "[]".toList
  | .array (v :: vs) => '[' :: print v ++ printItems vs
  | .object [] => ['\x7b', '\x7d']
  | .object ((k, v) :: ms) => '\x7b' :: printString k ++ ':' :: print v ++ printMembers ms

/-- The written form of the items after the first, and of the end of their array. -/
def printItems : List Json → List Char
  | [] => [']']
  | v :: vs => ',' :: print v ++ printItems vs

/-- The written form of the members after the first, and of the end of their object. -/
def printMembers : List (Option String × Json) → List Char
  | [] => ['\x7d']
  | (k, v) :: ms => ',' :: printString k ++ ':' :: print v ++ printMembers ms

end

end ResultFlow.Json
