import ResultFlow.Json.Token

/-!
# Reading JSON

`Json.read?` reads the one value of a whole text. Values may be nested to any depth.
-/

namespace ResultFlow.Json

mutual

/-- The value at the front of the tokens, and the rest. Every value takes a token at least, so that
two steps for each token are enough. -/
def value? : Nat → List Token → Option (Json × List Token)
  | 0, _ => none
  | n + 1, t :: ts =>
    match t with
    | .null => some (.null, ts)
    | .bool b => some (.bool b, ts)
    | .number l => some (.number l, ts)
    | .text s => some (.text s, ts)
    | .openArray => match ts with
      | .closeArray :: r => some (.array [], r)
      | _ => items? n ts []
    | .openObject => match ts with
      | .closeObject :: r => some (.object [], r)
      | _ => members? n ts []
    | _ => none
  | _, [] => none

/-- The items of an array up to its end, after those of `done`. -/
def items? : Nat → List Token → List Json → Option (Json × List Token)
  | 0, _, _ => none
  | n + 1, ts, done =>
    match value? n ts with
    | some (v, .comma :: r) => items? n r (v :: done)
    | some (v, .closeArray :: r) => some (.array (v :: done).reverse, r)
    | _ => none

/-- The members of an object up to its end, after those of `done`. -/
def members? : Nat → List Token → List (Option String × Json) → Option (Json × List Token)
  | 0, _, _ => none
  | n + 1, .text name :: .colon :: ts, done =>
    match value? n ts with
    | some (v, .comma :: r) => members? n r ((name, v) :: done)
    | some (v, .closeObject :: r) => some (.object ((name, v) :: done).reverse, r)
    | _ => none
  | _, _, _ => none

end

/-- The value that the tokens write, to their end. -/
def ofTokens? (ts : List Token) : Option Json :=
  match value? (2 * ts.length + 1) ts with
  | some (v, []) => some v
  | _ => none

/-- The value that a text writes. -/
def read? (s : String) : Option Json := (Token.scan? s.toList).bind ofTokens?

end ResultFlow.Json
