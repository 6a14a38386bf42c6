/-!
# Occurrences

What an entry of a list is, given the entries before it. Lists grow at their end here, as runs and
histories do: `occurs_concat` and `Throughout.concat` say what one more entry brings.
-/

namespace ResultFlow

variable {α : Type} {P : List α → α → Prop} {xs : List α}

/-- Some entry stands in relation `P` to the entries before it. -/
def Occurs (P : List α → α → Prop) (xs : List α) : Prop :=
  ∃ before x after, xs = before ++ x :: after ∧ P before x

/-- Every entry stands in relation `P` to the entries before it. -/
def Throughout (P : List α → α → Prop) (xs : List α) : Prop :=
  ∀ before x after, xs = before ++ x :: after → P before x

/-- An entry of a list that grew is the new one or one of the old. -/
theorem split_concat {before after : List α} {x y : α} (h : xs ++ [y] = before ++ x :: after) :
    (before = xs ∧ x = y) ∨ ∃ rest, xs = before ++ x :: rest := by
  rcases after.eq_nil_or_concat with rfl | ⟨rest, z, rfl⟩
  · obtain ⟨rfl, hy⟩ := List.append_inj' h rfl
    exact .inl ⟨rfl, (List.cons.inj hy).1.symm⟩
  · have h : xs ++ [y] = (before ++ x :: rest) ++ [z] := by simpa using h
    exact .inr ⟨rest, (List.append_inj' h rfl).1⟩

theorem not_occurs_nil : ¬ Occurs P [] := by
  rintro ⟨before, x, after, h, -⟩
  simp at h

theorem occurs_concat (y : α) : Occurs P (xs ++ [y]) ↔ Occurs P xs ∨ P xs y := by
  constructor
  · rintro ⟨before, x, after, h, hP⟩
    rcases split_concat h with ⟨rfl, rfl⟩ | ⟨rest, rfl⟩
    · exact .inr hP
    · exact .inl ⟨before, x, rest, rfl, hP⟩
  · rintro (⟨before, x, after, rfl, hP⟩ | hP)
    · exact ⟨before, x, after ++ [y], by simp, hP⟩
    · exact ⟨xs, y, [], rfl, hP⟩

theorem throughout_nil : Throughout P [] := by
  intro before x after h
  simp at h

theorem Throughout.concat (h : Throughout P xs) {y : α} (hy : P xs y) :
    Throughout P (xs ++ [y]) := by
  intro before x after hs
  rcases split_concat hs with ⟨rfl, rfl⟩ | ⟨rest, hr⟩
  · exact hy
  · exact h before x rest hr

end ResultFlow
