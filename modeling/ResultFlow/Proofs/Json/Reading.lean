import ResultFlow.Json.Reader
import ResultFlow.Proofs.Json.Scanning

/-!
# Reading a written value

From the tokens of a value the value is built again (`value?_tokens`), so that a text is read as the
value it presents (`read?_of_presents`). Every step of the reader takes a token, so that the number of
tokens bounds the steps.
-/

namespace ResultFlow.Json

theorem tokens_pos (v : Json) : 0 < (tokens v).length := by
  cases v <;> exact Nat.succ_pos _

/-- The items of an array begin with a value, so that it does not end at once. -/
theorem value?_openArray (v : Json) (vs : List Json) (n : Nat) (ts : List Token) :
    value? (n + 1) (.openArray :: (itemTokens (v :: vs) ++ ts)) =
      items? n (itemTokens (v :: vs) ++ ts) [] := by
  cases vs <;> cases v <;> rfl

/-- The members of an object begin with a name, so that it does not end at once. -/
theorem value?_openObject (m : Option String × Json) (ms : List (Option String × Json)) (n : Nat)
    (ts : List Token) :
    value? (n + 1) (.openObject :: (memberTokens (m :: ms) ++ ts)) =
      members? n (memberTokens (m :: ms) ++ ts) [] := by
  cases ms <;> rfl

mutual

/-- The tokens of a value are read as it. -/
theorem value?_tokens : ∀ (v : Json) (n : Nat) (r : List Token), (tokens v).length ≤ n →
    value? n (tokens v ++ r) = some (v, r)
  | v, 0, _, hn => absurd (tokens_pos v) (Nat.not_lt.mpr hn)
  | .null, _ + 1, _, _ => rfl
  | .bool _, _ + 1, _, _ => rfl
  | .number _, _ + 1, _, _ => rfl
  | .text _, _ + 1, _, _ => rfl
  | .array [], _ + 1, _, _ => rfl
  | .array (v :: vs), n + 1, r, hn => by
    rw [tokens, List.length_cons, List.length_append] at hn
    have hitems := items?_tokens v vs n r [] (Nat.le_of_succ_le_succ hn)
    rw [tokens, List.cons_append, List.append_assoc, value?_openArray]
    exact hitems
  | .object [], _ + 1, _, _ => rfl
  | .object (m :: ms), n + 1, r, hn => by
    rw [tokens, List.length_cons, List.length_append] at hn
    have hmembers := members?_tokens m ms n r [] (Nat.le_of_succ_le_succ hn)
    rw [tokens, List.cons_append, List.append_assoc, value?_openObject]
    exact hmembers

theorem items?_tokens : ∀ (v : Json) (vs : List Json) (n : Nat) (r : List Token)
    (done : List Json), (itemTokens (v :: vs)).length < n →
    items? n (itemTokens (v :: vs) ++ .closeArray :: r) done =
      some (.array (done.reverse ++ v :: vs), r)
  | _, _, 0, _, _, hn => absurd hn (Nat.not_lt_zero _)
  | v, [], n + 1, r, done, hn => by
    have hv := value?_tokens v n (.closeArray :: r) (Nat.le_of_lt_succ hn)
    rw [itemTokens, items?, hv]
    show some (Json.array (v :: done).reverse, r) = _
    rw [List.reverse_cons]
  | v, v' :: vs, n + 1, r, done, hn => by
    rw [itemTokens, List.length_append, List.length_cons] at hn
    have hv := value?_tokens v n (.comma :: (itemTokens (v' :: vs) ++ .closeArray :: r)) (by omega)
    have hrest := items?_tokens v' vs n r (v :: done) (by omega)
    rw [itemTokens, List.append_assoc, List.cons_append, items?, hv]
    show items? n _ (v :: done) = _
    rw [hrest, List.reverse_cons, List.append_assoc]
    rfl

theorem members?_tokens : ∀ (m : Option String × Json) (ms : List (Option String × Json)) (n : Nat)
    (r : List Token) (done : List (Option String × Json)), (memberTokens (m :: ms)).length < n →
    members? n (memberTokens (m :: ms) ++ .closeObject :: r) done =
      some (.object (done.reverse ++ m :: ms), r)
  | _, _, 0, _, _, hn => absurd hn (Nat.not_lt_zero _)
  | (name, v), [], n + 1, r, done, hn => by
    rw [memberTokens, List.length_cons, List.length_cons] at hn
    have hv := value?_tokens v n (.closeObject :: r) (by omega)
    rw [memberTokens, List.cons_append, List.cons_append, members?, hv]
    show some (Json.object ((name, v) :: done).reverse, r) = _
    rw [List.reverse_cons]
  | (name, v), m :: ms, n + 1, r, done, hn => by
    rw [memberTokens, List.length_cons, List.length_cons, List.length_append, List.length_cons] at hn
    have hv := value?_tokens v n (.comma :: (memberTokens (m :: ms) ++ .closeObject :: r)) (by omega)
    have hrest := members?_tokens m ms n r ((name, v) :: done) (by omega)
    rw [memberTokens, List.cons_append, List.cons_append, List.append_assoc, List.cons_append,
      members?, hv]
    show members? n _ ((name, v) :: done) = _
    rw [hrest, List.reverse_cons, List.append_assoc]
    rfl

end

/-- A text that presents a value is read as it. -/
theorem read?_of_presents {s : String} {v : Json} (h : Presents s v) : read? s = some v := by
  obtain ⟨a, w, b, hs, ha, hv, hb⟩ := h
  have hends : Ends b := by
    have hb' := Ends.spaces hb (r := []) fun c cs hc => nomatch hc
    rwa [List.append_nil] at hb'
  have hrest : Scanned b [] := by
    have hb' := scanned_nil.spaces hb
    rwa [List.append_nil] at hb'
  have hscan := (scanned_of_writes hv hends hrest).spaces ha _ [] (Nat.le_refl _)
  have hvalue := value?_tokens v (2 * (tokens v ++ []).length + 1) [] (by
    rw [List.append_nil]
    omega)
  rw [read?, Token.scan?, hs, hscan]
  show ofTokens? (tokens v ++ []) = _
  rw [ofTokens?, hvalue]

end ResultFlow.Json
