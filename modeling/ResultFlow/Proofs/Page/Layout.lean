import ResultFlow.Http.Query
import ResultFlow.Proofs.Json.Fields
import ResultFlow.Proofs.Json.Reading
import ResultFlow.Proofs.Number.Digits

/-!
# The layout of a page

A page is read from every JSON text that shows it (`Page.Shown`): the fields of each record stand in
any order among members with other names, what is absent or has its default is written or left out,
and the text has any spaces and any spelling of its strings. No text is read in which a required field
is missing or a known one is repeated (`Json.Faulty`).

1. The reader of a field finds what the field shows (`optionalText?_of_field`, `list?_of_field`,
   `int32?_of_field`, `bool?_of_field`).
2. A record that shows a cell, a row, a column or a page is read as it (`ofJson?_of_shown`).
3. What is read as one of them is not faulty (`not_faulty`).
-/

namespace ResultFlow

namespace Json

/-! ## Fields -/

/-- A text that may be absent: null then, or left out. -/
inductive OptionalField : Option String → Option Json → Prop
  | omitted : OptionalField none none
  | null : OptionalField none (some .null)
  | text (s : String) : OptionalField (some s) (some (.text (some s)))

/-- A list, which may be left out if it is empty. -/
inductive ListField {α : Type} (P : α → Json → Prop) : List α → Option Json → Prop
  | omitted : ListField P [] none
  | array {xs : List α} {items : List Json} (h : List.Forall₂ P xs items) :
      ListField P xs (some (.array items))

/-- A number of 32 bits in decimal digits, which may be left out if it is zero. -/
inductive NumberField : Int → Option Json → Prop
  | omitted : NumberField 0 none
  | number {n : Int} (hlo : -0x80000000 ≤ n) (hhi : n < 0x80000000) :
      NumberField n (some (.number (toString n).toList))

/-- A truth value, which may be left out if it is false. -/
inductive FlagField : Bool → Option Json → Prop
  | omitted : FlagField false none
  | bool (b : Bool) : FlagField b (some (.bool b))

/-- An object with at most one value for each field, in any place, and any members with other names.
All names are texts. -/
inductive RecordOf (fields : List (String × Bool × Shape)) (P : List (Option Json) → Prop) :
    Json → Prop
  | object {members : List (Option String × Json)} (vs : List (Option Json))
      (hn : ∀ m ∈ members, m.1.isSome = true)
      (hv : List.Forall₂ (fun name v => under (names fields) name (.object members) = v.toList)
        (names fields) vs)
      (h : P vs) : RecordOf fields P (.object members)

namespace RecordOf

variable {fields : List (String × Bool × Shape)} {P : List (Option Json) → Prop}
  {members members' : List (Option String × Json)}

/-- The fields of a record may stand in any order. -/
theorem perm (hp : members.Perm members') (h : RecordOf fields P (.object members)) :
    RecordOf fields P (.object members') := by
  cases h with
  | object vs hn hv h =>
    refine .object vs (fun m hm => hn m (hp.mem_iff.mpr hm)) (hv.imp fun name v hu => ?_) h
    have hx : (under (names fields) name (.object members)).Perm
        (under (names fields) name (.object members')) := (hp.filter _).map _
    rw [hu] at hx
    cases v with
    | none => exact List.nil_perm.mp hx
    | some x => exact (List.singleton_perm.mp hx).symm

/-- A record may have unknown fields. -/
theorem cons_unknown {name : String} {v : Json} (hn : name ∉ names fields)
    (h : RecordOf fields P (.object members)) :
    RecordOf fields P (.object ((some name, v) :: members)) := by
  cases h with
  | object vs hm hv h =>
    refine .object vs (List.forall_mem_cons.mpr ⟨rfl, hm⟩) ?_ h
    refine List.forall₂_iff_get.mpr ⟨hv.length_eq, fun i hi hi' => ?_⟩
    have hne : name ≠ (names fields)[i] := fun he => hn (he ▸ List.getElem_mem hi)
    rw [← (List.forall₂_iff_get.mp hv).2 i hi hi']
    show (List.filter _ _).map _ = _
    rw [List.filter_cons_of_neg (by simpa using hne)]
    rfl

end RecordOf

theorem optionalText?_of_field {s : Option String} {v : Option Json} (h : OptionalField s v) :
    optionalText? v = some s := by
  cases h <;> rfl

theorem list?_of_field {α : Type} {P : α → Json → Prop} {item : Json → Option α} {xs : List α}
    {v : Option Json} (hitem : ∀ x j, P x j → item j = some x) (h : ListField P xs v) :
    list? item v = some xs := by
  cases h with
  | omitted => rfl
  | array h => exact mapM_eq_some_iff.mpr (h.imp hitem).flip

theorem int32?_of_ne {l : List Char} (h : l ≠ ['-', '0']) :
    int32? (some (.number l)) = Integer.readWord? 32 l := by
  rw [int32?.eq_def]
  split
  · contradiction
  · rename_i he
    cases he
    exact absurd rfl h
  · rename_i he
    cases he
    rfl
  · rename_i he
    exact absurd rfl (he l)

theorem int32?_of_field {n : Int} {v : Option Json} (h : NumberField n v) : int32? v = some n := by
  cases h with
  | omitted => rfl
  | number hlo hhi =>
    rw [int32?_of_ne (Integer.toString_ne_negative_zero n)]
    exact Integer.readWord?_toString ⟨hlo, Int.le_sub_one_of_lt hhi⟩

theorem bool?_of_field {b : Bool} {v : Option Json} (h : FlagField b v) : bool? v = some b := by
  cases h <;> rfl

theorem fields?_of_record {fields : List (String × Bool × Shape)} {P : List (Option Json) → Prop}
    {j : Json} (h : RecordOf fields P j) :
    ∃ vs, fields? ((names fields).map fun name => [name]) j = some vs ∧ P vs := by
  obtain ⟨vs, hn, hv, h⟩ := h
  exact ⟨vs, fields?_object_iff.mpr ⟨hn, hv⟩, h⟩

end Json

open Json

/-! ## Rows -/

namespace Row

def cellFields : List (String × Bool × Shape) := [("VarCharValue", false, .any)]

def fields : List (String × Bool × Shape) := [("Data", false, .list (.record cellFields))]

/-- The record of a cell. -/
def CellShown (c : Cell) : Json → Prop :=
  RecordOf cellFields fun vs => ∃ value, vs = [value] ∧ OptionalField c value

/-- The record of a row. -/
def Shown (r : Row) : Json → Prop :=
  RecordOf fields fun vs => ∃ data, vs = [data] ∧ ListField CellShown r.cells data

theorem cell?_of_shown {c : Cell} {j : Json} (h : CellShown c j) : cell? j = some c := by
  obtain ⟨_, hj, value, rfl, hvalue⟩ := fields?_of_record h
  have hj : j.fields? [["VarCharValue"]] = some [value] := hj
  rw [cell?, hj]
  exact optionalText?_of_field hvalue

theorem ofJson?_of_shown {r : Row} {j : Json} (h : Shown r j) : ofJson? j = some r := by
  obtain ⟨_, hj, data, rfl, hdata⟩ := fields?_of_record h
  have hj : j.fields? [["Data"]] = some [data] := hj
  rw [ofJson?, hj]
  show (list? cell? data).bind _ = _
  rw [list?_of_field (fun _ _ h => cell?_of_shown h) hdata]
  rfl

theorem cell_not_faulty {c : Cell} {j : Json} (h : cell? j = some c) :
    ¬ Faulty (.record cellFields) j := by
  obtain ⟨vs, hj, h⟩ := Option.bind_eq_some_iff.mp h
  split at h
  · exact not_faulty_record (by decide) hj (.cons ⟨nofun, fun x _ => not_faulty_any x⟩ .nil)
  · cases h

theorem not_faulty {r : Row} {j : Json} (h : ofJson? j = some r) : ¬ Faulty (.record fields) j := by
  obtain ⟨vs, hj, h⟩ := Option.bind_eq_some_iff.mp h
  split at h
  · rename_i data
    obtain ⟨cells, hcells, -⟩ := Option.bind_eq_some_iff.mp h
    refine not_faulty_record (by decide) hj (.cons ⟨nofun, ?_⟩ .nil)
    rintro x rfl
    exact not_faulty_list (fun v c => cell_not_faulty) hcells
  · cases h

end Row

/-! ## Columns -/

namespace Column

def fields : List (String × Bool × Shape) :=
  [("CatalogName", false, .any), ("SchemaName", false, .any), ("TableName", false, .any),
    ("Name", true, .any), ("Label", false, .any), ("Type", true, .any), ("Precision", false, .any),
    ("Scale", false, .any), ("Nullable", false, .any), ("CaseSensitive", false, .any)]

/-- The record of a column. -/
def Shown (c : Column) : Json → Prop :=
  RecordOf fields fun vs => ∃ catalog schema table label precision scale nullable caseSensitive,
    vs = [catalog, schema, table, some (.text (some c.name)), label, some (.text (some c.type)),
      precision, scale, nullable, caseSensitive] ∧
    OptionalField c.catalog catalog ∧ OptionalField c.schema schema ∧
    OptionalField c.table table ∧ OptionalField c.sentLabel label ∧
    NumberField c.precision precision ∧ NumberField c.scale scale ∧
    OptionalField c.nullable nullable ∧ FlagField c.caseSensitive caseSensitive

theorem ofJson?_of_shown {c : Column} {j : Json} (h : Shown c j) : ofJson? j = some c := by
  obtain ⟨_, hj, catalog, schema, table, label, precision, scale, nullable, caseSensitive, rfl,
    hcatalog, hschema, htable, hlabel, hprecision, hscale, hnullable, hcase⟩ := fields?_of_record h
  have hj : j.fields? fieldNames = some _ := hj
  rw [ofJson?, hj]
  simp only [Option.bind_eq_bind, Option.bind_some, optionalText?_of_field hcatalog,
    optionalText?_of_field hschema, optionalText?_of_field htable, text?,
    optionalText?_of_field hlabel, int32?_of_field hprecision, int32?_of_field hscale,
    optionalText?_of_field hnullable, bool?_of_field hcase]
  rfl

theorem not_faulty {c : Column} {j : Json} (h : ofJson? j = some c) :
    ¬ Faulty (.record fields) j := by
  obtain ⟨vs, hj, h⟩ := Option.bind_eq_some_iff.mp h
  split at h
  · rename_i catalog schema table name label type precision scale nullable caseSensitive
    have hoptional : ∀ (n : String) (v : Option Json), Sound (n, false, .any) v :=
      fun n v => ⟨nofun, fun x _ => not_faulty_any x⟩
    have hrequired : ∀ (n : String) (v : Option Json) (s : String), text? v = some s →
        Sound (n, true, .any) v := by
      refine fun n v s hv => ⟨fun _ he => ?_, fun x _ => not_faulty_any x⟩
      rw [he] at hv
      cases hv
    simp only [Option.bind_eq_bind, Option.bind_eq_some_iff] at h
    obtain ⟨_, -, _, -, _, -, n, hname, _, -, t, htype, -⟩ := h
    exact not_faulty_record (by decide) hj
      (.cons (hoptional _ _) (.cons (hoptional _ _) (.cons (hoptional _ _)
        (.cons (hrequired _ _ n hname) (.cons (hoptional _ _) (.cons (hrequired _ _ t htype)
          (.cons (hoptional _ _) (.cons (hoptional _ _) (.cons (hoptional _ _)
            (.cons (hoptional _ _) .nil))))))))))
  · cases h

end Column

/-! ## Pages -/

namespace Page

def metadataFields : List (String × Bool × Shape) :=
  [("ColumnInfo", false, .list (.record Column.fields))]

def resultFields : List (String × Bool × Shape) :=
  [("Rows", false, .list (.record Row.fields)), ("ResultSetMetadata", false, .record metadataFields)]

def fields : List (String × Bool × Shape) :=
  [("NextToken", false, .any), ("ResultSet", true, .record resultFields)]

/-- The metadata of a result, which may be left out if there are no columns. -/
inductive ColumnsShown : List Column → Option Json → Prop
  | omitted : ColumnsShown [] none
  | record {columns : List Column} {j : Json}
      (h : RecordOf metadataFields (fun vs => ∃ infos, vs = [infos] ∧
        ListField Column.Shown columns infos) j) : ColumnsShown columns (some j)

/-- The record of a page. -/
def Shown (p : Page) : Json → Prop :=
  RecordOf fields fun vs => ∃ token result, vs = [token, some result] ∧ OptionalField p.next token ∧
    RecordOf resultFields (fun vs => ∃ rows metadata, vs = [rows, metadata] ∧
      ListField Row.Shown p.rows rows ∧ ColumnsShown p.columns metadata) result

theorem columns?_of_shown {columns : List Column} {v : Option Json} (h : ColumnsShown columns v) :
    columns? v = some columns := by
  cases h with
  | omitted => rfl
  | record h =>
    obtain ⟨_, hj, infos, rfl, hinfos⟩ := fields?_of_record h
    have hj : Json.fields? [["ColumnInfo"]] _ = some [infos] := hj
    rw [columns?, hj]
    exact list?_of_field (fun _ _ h => Column.ofJson?_of_shown h) hinfos

theorem ofJson?_of_shown {p : Page} {j : Json} (h : Shown p j) : ofJson? j = some p := by
  obtain ⟨_, hj, token, result, rfl, htoken, hresult⟩ := fields?_of_record h
  obtain ⟨_, hr, rows, metadata, rfl, hrows, hcolumns⟩ := fields?_of_record hresult
  have hj : j.fields? [["NextToken"], ["ResultSet"]] = some [token, some result] := hj
  have hr : result.fields? [["Rows"], ["ResultSetMetadata"]] = some [rows, metadata] := hr
  rw [ofJson?, hj]
  simp only [Option.bind_eq_bind, Option.bind_some, hr, optionalText?_of_field htoken,
    list?_of_field (fun _ _ h => Row.ofJson?_of_shown h) hrows, columns?_of_shown hcolumns]
  rfl

theorem metadata_not_faulty {columns : List Column} {j : Json}
    (h : columns? (some j) = some columns) : ¬ Faulty (.record metadataFields) j := by
  obtain ⟨vs, hj, h⟩ := Option.bind_eq_some_iff.mp h
  split at h
  · refine not_faulty_record (by decide) hj (.cons ⟨nofun, ?_⟩ .nil)
    rintro x rfl
    exact not_faulty_list (fun v c => Column.not_faulty) h
  · cases h

theorem not_faulty {p : Page} {j : Json} (h : ofJson? j = some p) : ¬ Faulty (.record fields) j := by
  obtain ⟨vs, hj, h⟩ := Option.bind_eq_some_iff.mp h
  split at h
  · rename_i token result
    obtain ⟨rs, hr, h⟩ := Option.bind_eq_some_iff.mp h
    split at h
    · rename_i rows metadata
      simp only [Option.bind_eq_bind, Option.bind_eq_some_iff] at h
      obtain ⟨_, -, _, hrows, _, hcolumns, -⟩ := h
      have hresult : ¬ Faulty (.record resultFields) result := by
        refine not_faulty_record (by decide) hr (.cons ⟨nofun, ?_⟩ (.cons ⟨nofun, ?_⟩ .nil))
        · rintro x rfl
          exact not_faulty_list (fun v r => Row.not_faulty) hrows
        · rintro x rfl
          exact metadata_not_faulty hcolumns
      refine not_faulty_record (by decide) hj (.cons ⟨nofun, fun x _ => not_faulty_any x⟩
        (.cons ⟨nofun, ?_⟩ .nil))
      rintro x he
      cases he
      exact hresult
    · cases h
  · cases h

open Http in
/-- A page is read from every text that shows it, however it is laid out: the response is answered with
exactly this page. A text in which a required field is missing or a known one repeated is read as no
page: the response is answered with an error that names its body. -/
theorem read?_of_layout {τ : Type} (q : QueryClient τ) :
    (∀ (p : Page) (j : Json) (s : String), p.Shown j → Presents s j →
      read? s = some p ∧ ∀ r : Response, r.text = .ok s → q.pageOf r = .ok p) ∧
    ∀ (j : Json) (s : String), Faulty (.record fields) j → Presents s j →
      read? s = none ∧ ∀ r : Response, r.text = .ok s → q.pageOf r = .error (.service
        ("Failed to parse GetQueryResults response: " ++ q.explain s ++ " - body: " ++ s)) := by
  refine ⟨fun p j s hp hs => ?_, fun j s hf hs => ?_⟩
  · have hread : read? s = some p := by
      rw [read?, read?_of_presents hs]
      exact ofJson?_of_shown hp
    refine ⟨hread, fun r hr => ?_⟩
    rw [QueryClient.pageOf, hr]
    dsimp only
    rw [hread]
  · have hread : read? s = none := by
      rw [read?, read?_of_presents hs]
      exact Option.eq_none_iff_forall_ne_some.mpr fun p hp => not_faulty hp hf
    refine ⟨hread, fun r hr => ?_⟩
    rw [QueryClient.pageOf, hr]
    dsimp only
    rw [hread]

open Http in
/-- A row with an empty text and a NULL, among spaces, an unknown field and a null token; and an object
without a result. -/
theorem read?_of_layout_reordered :
    let p : Page := { rows := [⟨[some "", none]⟩] }
    let cells := [.object [(some "VarCharValue", .text (some ""))], .object []]
    let rows : List Json := [.object [(some "Data", .array cells)]]
    let result : Json := .object [(some "Rows", .array rows)]
    let j : Json := .object [(some "more", .array [.number ['0']]), (some "ResultSet", result),
      (some "NextToken", .null)]
    let s := "\x7b\"more\":[ 0],\"ResultSet\":\x7b\"Rows\":[\x7b\"Data\":[" ++
      "\x7b\"VarCharValue\":\"\"\x7d,\n\x7b\x7d]\x7d]\x7d,\"NextToken\":null\x7d\n"
    (p.Shown j ∧ Presents s j ∧ read? s = some p) ∧
      Faulty (.record fields) (.object []) ∧ Presents "\x7b\x7d" (.object []) ∧
        read? "\x7b\x7d" = none := by
  intro p cells rows result j s
  have hnull : Row.CellShown none (.object []) :=
    .object [none] (by decide) (.cons rfl .nil) ⟨none, rfl, .omitted⟩
  have hempty : Row.CellShown (some "") (.object [(some "VarCharValue", .text (some ""))]) :=
    .object [some (.text (some ""))] (by decide) (.cons rfl .nil) ⟨_, rfl, .text ""⟩
  have hrow : Row.Shown ⟨[some "", none]⟩ (.object [(some "Data", .array cells)]) :=
    .object [some (.array cells)] (by decide) (.cons rfl .nil)
      ⟨_, rfl, .array (.cons hempty (.cons hnull .nil))⟩
  have hinOrder : p.Shown (.object [(some "NextToken", .null), (some "ResultSet", result)]) :=
    .object [some .null, some result] (by decide) (.cons rfl (.cons rfl .nil)) ⟨_, _, rfl, .null,
      .object [some (.array rows), none] (by decide) (.cons rfl (.cons rfl .nil))
        ⟨_, _, rfl, .array (.cons hrow .nil), .omitted⟩⟩
  have hp : p.Shown j := (hinOrder.perm (.swap ..)).cons_unknown (by decide)
  -- the same value, as it is written
  have hmember : ∀ {name : String} {v : Json} {w : List Char}, Spells (some name) name.toList →
      Writes v w → WritesMember (some name) v _ := fun hn hv =>
    .named (a := []) (b := []) (c := []) hn nofun nofun hv nofun
  have hcells : Writes (.array cells) _ :=
    .array (.more (a := []) (b := []) nofun (.object (.one (a := []) nofun
      (hmember (spells_self (by decide +kernel)) (.text (spells_self (by decide +kernel)))))) nofun
      (.one (a := ['\n']) (b := []) (by decide) (.object (.nil (a := []) nofun)) nofun))
  have hrows : Writes (.array rows) _ :=
    .array (.one (a := []) (b := []) nofun (.object (.one (a := []) nofun
      (hmember (spells_self (by decide +kernel)) hcells))) nofun)
  have hmore : Writes (.array [.number ['0']]) _ :=
    .array (.one (a := [' ']) (b := []) (by decide) (.number (.inl ⟨['0'], [], [], rfl, .inl rfl,
      .inl rfl, .inl rfl⟩)) nofun)
  have hv : Writes j _ :=
    .object (.more (a := []) nofun (hmember (spells_self (by decide +kernel)) hmore)
      (.more (a := []) nofun (hmember (spells_self (by decide +kernel))
        (.object (.one (a := []) nofun (hmember (spells_self (by decide +kernel)) hrows))))
        (.one (a := []) nofun (hmember (spells_self (by decide +kernel)) .null))))
  have hs : Presents s j := ⟨[], _, ['\n'], by decide +kernel, nofun, hv, by decide⟩
  have hf : Faulty (.record fields) (.object []) := .missing (.tail _ (.head _)) rfl
  have he : Presents "\x7b\x7d" (.object []) :=
    ⟨[], _, [], rfl, nofun, .object (.nil (a := []) nofun), nofun⟩
  let q : QueryClient Unit :=
    ⟨⟨{}, .bearer "token", fun _ => true⟩, "http://localhost/", fun _ => "missing field"⟩
  exact ⟨⟨hp, hs, ((read?_of_layout q).1 p j s hp hs).1⟩, hf, he,
    ((read?_of_layout q).2 _ _ hf he).1⟩

/-- Not all that the grammar allows is read: no name may hold half of a surrogate pair, be it the name
of an unknown field, and zero is not written as a negative number, nor with a fraction or exponent. -/
theorem layouts_not_read :
    (let shown : List (Option String × Json) := [(some "ResultSet", .object [])]
      let s := "\x7b\"\\ud800\":0,\"ResultSet\":\x7b\x7d\x7d"
      Shown {} (.object shown) ∧ Presents s (.object ((none, .number ['0']) :: shown)) ∧
        read? s = none) ∧
    let column (l : List Char) : Json := .object [(some "Name", .text (some "a")),
      (some "Type", .text (some "b")), (some "Precision", .number l)]
    let s (l : List Char) := "\x7b\"Name\":\"a\",\"Type\":\"b\",\"Precision\":" ++
      String.ofList l ++ "\x7d"
    Column.Shown { name := "a", type := "b" } (column ['0']) ∧
      ∀ l ∈ [['-', '0'], ['0', '.', '0'], ['0', 'e', '0']], IsNumber l ∧ Presents (s l) (column l) ∧
        Column.ofJson? (column l) = none ∧
        read? ("\x7b\"ResultSet\":\x7b\"ResultSetMetadata\":\x7b\"ColumnInfo\":[" ++ s l ++
          "]\x7d\x7d\x7d") = none := by
  have hnone : Spaces [] := nofun
  have hmember : ∀ {name : Option String} {u w : List Char} {v : Json}, Spells name u → Writes v w →
      WritesMember name v _ := fun hn hv =>
    .named (a := []) (b := []) (c := []) hn hnone hnone hv hnone
  have hzero : UnsignedNumber ['0'] := ⟨['0'], [], [], rfl, .inl rfl, .inl rfl, .inl rfl⟩
  have hdigits : Digits ['0'] := ⟨nofun, List.forall_mem_singleton.mpr rfl⟩
  refine ⟨⟨?_, ?_, by decide +kernel⟩, ?_, ?_⟩
  · exact .object [none, some (.object [])] (by decide) (.cons rfl (.cons rfl .nil))
      ⟨_, _, rfl, .omitted, .object [none, none] (by decide) (.cons rfl (.cons rfl .nil))
        ⟨_, _, rfl, .omitted, .omitted⟩⟩
  · have hunit : Written [.unit 0xD800] "\\ud800".toList :=
      .unit (.digits ⟨by decide, .inl rfl⟩ ⟨by decide, .inl rfl⟩ ⟨by decide, .inl rfl⟩
        ⟨by decide, .inl rfl⟩) .nil
    have hname : Spells none "\\ud800".toList :=
      ⟨_, hunit, fun s hs => nomatch joined?_of_joins hs []⟩
    have hv : Writes (.object [(none, .number ['0']), (some "ResultSet", .object [])]) _ :=
      .object (.more (a := []) hnone (hmember hname (.number (.inl hzero)))
        (.one (a := []) hnone (hmember (spells_self (by decide +kernel)) (.object (.nil hnone)))))
    exact ⟨[], _, [], by decide +kernel, hnone, hv, hnone⟩
  · refine .object [none, none, none, some _, none, some _, some _, none, none, none] (by decide)
      (.cons rfl (.cons rfl (.cons rfl (.cons rfl (.cons rfl (.cons rfl (.cons rfl (.cons rfl
        (.cons rfl (.cons rfl .nil)))))))))) ?_
    exact ⟨_, _, _, _, _, _, _, _, rfl, .omitted, .omitted, .omitted, .omitted,
      .number (by decide) (by decide), .omitted, .omitted, .omitted⟩
  · have hnumber : ∀ l ∈ [['-', '0'], ['0', '.', '0'], ['0', 'e', '0']], IsNumber l := by
      simp only [List.forall_mem_cons, List.not_mem_nil]
      exact ⟨.inr ⟨['0'], rfl, hzero⟩,
        .inl ⟨['0'], ['.', '0'], [], rfl, .inl rfl, .inr ⟨['0'], rfl, hdigits⟩, .inl rfl⟩,
        .inl ⟨['0'], [], ['e', '0'], rfl, .inl rfl, .inl rfl,
          .inr ⟨'e', [], ['0'], rfl, .inl rfl, .inl rfl, hdigits⟩⟩, nofun⟩
    have hv : ∀ {l : List Char}, IsNumber l → Writes (.object [(some "Name", .text (some "a")),
        (some "Type", .text (some "b")), (some "Precision", .number l)]) _ := fun hl =>
      .object (.more (a := []) hnone
        (hmember (spells_self (by decide +kernel)) (.text (spells_self (by decide +kernel))))
        (.more (a := []) hnone
          (hmember (spells_self (by decide +kernel)) (.text (spells_self (by decide +kernel))))
          (.one (a := []) hnone (hmember (spells_self (by decide +kernel)) (.number hl)))))
    refine fun l hl => ⟨hnumber l hl, ⟨[], _, [], ?_, hnone, hv (hnumber l hl), hnone⟩, ?_, ?_⟩
    all_goals
      clear hnumber hv
      revert l
      decide +kernel

end Page

end ResultFlow
