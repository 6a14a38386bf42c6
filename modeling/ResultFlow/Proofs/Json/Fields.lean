import Mathlib.Data.List.Forall2
import ResultFlow.Json

/-!
# The fields of a record

What stands under a name in a record (`under`), whether it is written as an object or as an array. A
record is read if no known field is repeated, and then the value of each field is the one under its
name (`fields?_object_iff`, `under_of_fields?`).

A `Shape` says which fields a kind of record has and which of them it needs. `Faulty` finds a missing
or repeated field at any depth of a value. A reader that looks at the fields of its shape refuses every
faulty value (`not_faulty_record`, `not_faulty_list`).
-/

namespace ResultFlow.Json

/-- The values under a name in a record whose fields come in this order. -/
def under (order : List String) (name : String) : Json → List Json
  | .object members => (members.filter (·.1 == some name)).map (·.2)
  | .array items => items[order.idxOf name]?.toList
  | _ => []

/-- The value under these names among the members of an object. -/
def member? (members : List (Option String × Json)) (names : List String) : Option (Option Json) :=
  match members.filter fun m => names.any (m.1 == some ·) with
  | [] => some none
  | [m] => some (some m.2)
  | _ => none

theorem mapM_eq_some_iff {α β : Type} {f : α → Option β} {xs : List α} {ys : List β} :
    xs.mapM f = some ys ↔ List.Forall₂ (fun x y => f x = some y) xs ys := by
  induction xs generalizing ys with
  | nil =>
    rw [List.mapM_nil, List.forall₂_nil_left_iff]
    exact ⟨fun h => by cases h; rfl, fun h => by rw [h]; rfl⟩
  | cons x xs ih =>
    rw [List.mapM_cons, List.forall₂_cons_left_iff]
    constructor
    · intro h
      obtain ⟨y, hy, h⟩ := Option.bind_eq_some_iff.mp h
      obtain ⟨ys', hys, h⟩ := Option.bind_eq_some_iff.mp h
      cases h
      exact ⟨y, ys', hy, ih.mp hys, rfl⟩
    · rintro ⟨y, ys', hy, hys, rfl⟩
      rw [hy, ih.mpr hys]
      rfl

theorem member?_eq_some_iff {members : List (Option String × Json)} {name : String}
    {v : Option Json} (order : List String) :
    member? members [name] = some v ↔ under order name (.object members) = v.toList := by
  have hany : (fun m : Option String × Json => [name].any (m.1 == some ·)) = (·.1 == some name) := by
    funext m
    exact Bool.or_false _
  have hunder : under order name (.object members) =
      (members.filter (·.1 == some name)).map (·.2) := rfl
  rw [member?, hany, hunder]
  generalize members.filter (·.1 == some name) = found
  rcases found with _ | ⟨m, _ | ⟨m', ms⟩⟩ <;> cases v <;> simp

/-- An object is read as a record if all names are texts and no field is repeated. -/
theorem fields?_object_iff {members : List (Option String × Json)} {order : List String}
    {vs : List (Option Json)} :
    fields? (order.map fun name => [name]) (.object members) = some vs ↔
      (∀ m ∈ members, m.1.isSome = true) ∧
      List.Forall₂ (fun name v => under order name (.object members) = v.toList) order vs := by
  have hx : fields? (order.map fun name => [name]) (.object members) =
      if members.all (·.1.isSome) then (order.map fun name => [name]).mapM (member? members)
      else none := rfl
  rw [hx]
  split
  · rename_i hall
    rw [mapM_eq_some_iff, List.forall₂_map_left_iff]
    simp only [member?_eq_some_iff order]
    exact ⟨fun h => ⟨List.all_eq_true.mp hall, h⟩, fun h => h.2⟩
  · rename_i hall
    exact ⟨nofun, fun h => absurd (List.all_eq_true.mpr h.1) hall⟩

/-- An array is read as a record in the order of its fields. -/
theorem under_of_array {items : List Json} {order : List String} {vs : List (Option Json)}
    (hd : order.Nodup) (h : fields? (order.map fun name => [name]) (.array items) = some vs) :
    List.Forall₂ (fun name v => under order name (.array items) = v.toList) order vs := by
  have hx : fields? (order.map fun name => [name]) (.array items) =
      if items.length ≤ (order.map fun name => [name]).length then
        some (items.map some ++
          List.replicate ((order.map fun name => [name]).length - items.length) none)
      else none := rfl
  rw [hx, List.length_map] at h
  split at h
  · rename_i hl
    cases h
    refine List.forall₂_iff_get.mpr ⟨?_, fun i hi hi' => ?_⟩
    · rw [List.length_append, List.length_map, List.length_replicate]
      omega
    · show (items[order.idxOf order[i]]?).toList = _
      rw [hd.idxOf_getElem i hi, List.get_eq_getElem, List.getElem_append]
      split
      · rename_i hlt
        rw [List.length_map] at hlt
        rw [List.getElem?_eq_getElem hlt, List.getElem_map]
      · rename_i hge
        rw [List.length_map] at hge
        rw [List.getElem?_eq_none (Nat.le_of_not_lt hge), List.getElem_replicate]
  · cases h

/-- Whatever is read as a record has at most one value under each name. -/
theorem under_of_fields? {j : Json} {order : List String} {vs : List (Option Json)}
    (hd : order.Nodup) (h : fields? (order.map fun name => [name]) j = some vs) :
    List.Forall₂ (fun name v => under order name j = v.toList) order vs := by
  cases j with
  | object members => exact (fields?_object_iff.mp h).2
  | array items => exact under_of_array hd h
  | null | bool | number | text => cases h

/-! ## Shapes -/

/-- What a value is read as. -/
inductive Shape
  | any
  | list (item : Shape)
  /-- Fields by name, with whether they are required. -/
  | record (fields : List (String × Bool × Shape))

/-- The names of fields, in order. -/
def names (fields : List (String × Bool × Shape)) : List String := fields.map (·.1)

/-- Somewhere in a value a required field is missing or a known one is repeated. -/
inductive Faulty : Shape → Json → Prop
  | missing {fields : List (String × Bool × Shape)} {name : String} {s : Shape} {j : Json}
      (hf : (name, true, s) ∈ fields) (h : under (names fields) name j = []) :
      Faulty (.record fields) j
  | repeated {fields : List (String × Bool × Shape)} {name : String} {required : Bool} {s : Shape}
      {j : Json} (hf : (name, required, s) ∈ fields) (h : 2 ≤ (under (names fields) name j).length) :
      Faulty (.record fields) j
  | field {fields : List (String × Bool × Shape)} {name : String} {required : Bool} {s : Shape}
      {j v : Json} (hf : (name, required, s) ∈ fields) (hv : v ∈ under (names fields) name j)
      (h : Faulty s v) : Faulty (.record fields) j
  | item {s : Shape} {items : List Json} {v : Json} (hv : v ∈ items) (h : Faulty s v) :
      Faulty (.list s) (.array items)

/-- A field that is there if it is required, and that is not faulty. -/
def Sound (field : String × Bool × Shape) (v : Option Json) : Prop :=
  (field.2.1 = true → v ≠ none) ∧ ∀ x, v = some x → ¬ Faulty field.2.2 x

theorem not_faulty_any (j : Json) : ¬ Faulty .any j := nofun

/-- A record whose fields are sound is not faulty. -/
theorem not_faulty_record {fields : List (String × Bool × Shape)} {j : Json}
    {vs : List (Option Json)} (hd : (names fields).Nodup)
    (hj : fields? ((names fields).map fun name => [name]) j = some vs)
    (hs : List.Forall₂ Sound fields vs) : ¬ Faulty (.record fields) j := by
  have hu := under_of_fields? hd hj
  have hfield : ∀ f ∈ fields, ∃ v : Option Json,
      under (names fields) f.1 j = v.toList ∧ Sound f v := by
    intro f hf
    obtain ⟨i, hi, rfl⟩ := List.getElem_of_mem hf
    have hlen := hs.length_eq
    have hi' : i < (names fields).length := by rwa [names, List.length_map]
    refine ⟨vs[i], ?_, (List.forall₂_iff_get.mp hs).2 i hi (by omega)⟩
    have hx := (List.forall₂_iff_get.mp hu).2 i hi' (by omega)
    rw [List.get_eq_getElem, List.get_eq_getElem] at hx
    simpa only [names, List.getElem_map] using hx
  intro h
  cases h with
  | missing hf h =>
    obtain ⟨v, hv, hsound, -⟩ := hfield _ hf
    rw [h] at hv
    cases v with
    | none => exact hsound rfl rfl
    | some x => cases hv
  | repeated hf h =>
    obtain ⟨v, hv, -⟩ := hfield _ hf
    rw [hv] at h
    cases v <;> simp at h
  | field hf hv h =>
    obtain ⟨v, hu, -, hsound⟩ := hfield _ hf
    rw [hu, Option.mem_toList] at hv
    exact hsound _ hv h

/-- A list of which every item is read is not faulty. -/
theorem not_faulty_list {α : Type} {s : Shape} {item : Json → Option α} {j : Json} {xs : List α}
    (hitem : ∀ v x, item v = some x → ¬ Faulty s v) (h : list? item (some j) = some xs) :
    ¬ Faulty (.list s) j := by
  intro hf
  cases hf with
  | item hv hf =>
    obtain ⟨i, hi, rfl⟩ := List.getElem_of_mem hv
    have hx := mapM_eq_some_iff.mp h
    have hlen := hx.length_eq
    exact hitem _ _ ((List.forall₂_iff_get.mp hx).2 i hi (by omega)) hf

end ResultFlow.Json
