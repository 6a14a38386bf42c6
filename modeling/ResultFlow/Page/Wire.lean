import ResultFlow.Json.Printer
import ResultFlow.Json.Reader
import ResultFlow.Page

/-!
# Pages on the wire

The service answers a page request with a JSON record. Field names are in upper camel case, a column
has a name and a type, and everything else may be left out. A request is a JSON object with the
query, the token of the page unless it is the first, and the number of rows.
-/

namespace ResultFlow

namespace Json

/-- A field that is zero unless it is there, and else a 32-bit number spelled without point,
exponent or negative zero. -/
def int32? : Option Json → Option Int
  | none => some 0
  | some (.number ['-', '0']) => none
  | some (.number l) => Integer.readWord? 32 l
  | _ => none

end Json

namespace Row

def cell? (j : Json) : Option Cell := do
  match ← j.fields? [["VarCharValue"]] with
  | [value] => Json.optionalText? value
  | _ => none

/-- The row of a JSON record. -/
def ofJson? (j : Json) : Option Row := do
  match ← j.fields? [["Data"]] with
  | [data] => return ⟨← Json.list? cell? data⟩
  | _ => none

end Row

namespace Column

/-- The fields of a column, in the order of an array that stands for one. -/
def fieldNames : List (List String) :=
  [["CatalogName"], ["SchemaName"], ["TableName"], ["Name"], ["Label"], ["Type"], ["Precision"],
    ["Scale"], ["Nullable"], ["CaseSensitive"]]

/-- The column of a JSON record. -/
def ofJson? (j : Json) : Option Column := do
  match ← j.fields? fieldNames with
  | [catalog, schema, table, name, label, type, precision, scale, nullable, caseSensitive] =>
    return {
      catalog := ← Json.optionalText? catalog
      schema := ← Json.optionalText? schema
      table := ← Json.optionalText? table
      name := ← Json.text? name
      sentLabel := ← Json.optionalText? label
      type := ← Json.text? type
      precision := ← Json.int32? precision
      scale := ← Json.int32? scale
      nullable := ← Json.optionalText? nullable
      caseSensitive := ← Json.bool? caseSensitive }
  | _ => none

end Column

namespace Page

/-- The columns of the metadata record of a page. -/
def columns? : Option Json → Option (List Column)
  | none => some []
  | some j => do
    match ← j.fields? [["ColumnInfo"]] with
    | [columns] => Json.list? Column.ofJson? columns
    | _ => none

/-- The page of a JSON record. -/
def ofJson? (j : Json) : Option Page := do
  match ← j.fields? [["NextToken"], ["ResultSet"]] with
  | [token, some result] =>
    match ← result.fields? [["Rows"], ["ResultSetMetadata"]] with
    | [rows, metadata] =>
      return {
        next := ← Json.optionalText? token
        rows := ← Json.list? Row.ofJson? rows
        columns := ← columns? metadata }
    | _ => none
  | _ => none

/-- The page that an answer writes. -/
def read? (answer : String) : Option Page := (Json.read? answer).bind ofJson?

end Page

/-- What the service says about a request that it refused. -/
structure Refusal where
  type : Option String
  message : Option String

namespace Refusal

/-- The refusal of a JSON record. -/
def ofJson? (j : Json) : Option Refusal := do
  match ← j.fields? [["__type"], ["message", "Message"]] with
  | [type, message] =>
    return { type := ← Json.optionalText? type, message := ← Json.optionalText? message }
  | _ => none

/-- The refusal that an answer writes. -/
def read? (answer : String) : Option Refusal := (Json.read? answer).bind ofJson?

/-- The type without the name space before the last `#`. -/
def kind (r : Refusal) : String :=
  match r.type with
  | none => "ServiceError"
  | some t => String.ofList (t.toList.reverse.takeWhile (· ≠ '#')).reverse

end Refusal

namespace PageRequest

/-- The JSON object of a request. -/
def toJson (r : PageRequest) : Json :=
  .object (
    [(some "QueryExecutionId", .text (some r.query))] ++
    (match r.token with
      | none => []
      | some t => [(some "NextToken", .text (some t))]) ++
    [(some "MaxResults", .number (Nat.toDigits 10 r.maxRows))])

/-- The text of a request. -/
def text (r : PageRequest) : String := String.ofList r.toJson.print

end PageRequest

end ResultFlow
