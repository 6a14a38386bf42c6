/-!
# JSON values

A value keeps what its readers need of the text: the order and repetition of members, and the
spelling of numbers. A string whose escapes leave half of a surrogate pair stands for no text.
-/

namespace ResultFlow

/-- A JSON value. -/
inductive Json
  | null
  | bool (b : Bool)
  /-- A number, as it is spelled. -/
  | number (literal : List Char)
  /-- A string; `none` when half of a surrogate pair stands alone in it. -/
  | text (s : Option String)
  | array (items : List Json)
  /-- Members in order; a name may occur more than once. -/
  | object (members : List (Option String × Json))

namespace Json

/-- The characters that may stand between tokens. -/
def isSpace (c : Char) : Bool := c = ' ' || c = '\t' || c = '\n' || c = '\r'

/-! ## Records

A record is written as an object, or as an array of its fields in order. Members with other names
are passed over; a field may be missing, but not repeated.
-/

/-- The values of the fields, by their accepted names, in order. -/
def fields? (names : List (List String)) : Json → Option (List (Option Json))
  | .object members =>
    if members.all (·.1.isSome) then
      names.mapM fun ns =>
        match members.filter fun m => ns.any (m.1 == some ·) with
        | [] => some none
        | [m] => some (some m.2)
        | _ => none
    else none
  | .array items =>
    if items.length ≤ names.length then
      some (items.map some ++ List.replicate (names.length - items.length) none)
    else none
  | _ => none

/-- A field that must be a text. -/
def text? : Option Json → Option String
  | some (.text s) => s
  | _ => none

/-- A field that may be a text, null or missing. -/
def optionalText? : Option Json → Option (Option String)
  | none | some .null => some none
  | some (.text (some s)) => some (some s)
  | _ => none

/-- A field that is false unless it is there. -/
def bool? : Option Json → Option Bool
  | none => some false
  | some (.bool b) => some b
  | _ => none

/-- A field that is an empty list unless it is there. -/
def list? {α : Type} (item : Json → Option α) : Option Json → Option (List α)
  | none => some []
  | some (.array items) => items.mapM item
  | _ => none

end Json

end ResultFlow
