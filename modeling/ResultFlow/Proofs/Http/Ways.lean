import ResultFlow.Http.Exchange

/-!
# The ways of attempts

`Client.attempts` is a loop in which each step may fail or panic. `Client.Attempting` says once which
ways it can go: an attempt cannot be made, is the last one, or cannot be repeated; or it is repeated,
and the rest follow. Whatever the loop is, it goes one of these ways (`attempts_attempting`), and what
is proved of all of them by induction holds of it.

1. Work and then more is what the first part makes of it (`run_bind_of_ok` and its companions).
2. An attempt is answered, or it has no number, no authorization header or no report
   (`attempt_cases`).
3. Before a repetition a report and a pause are computed, which may not fit (`backOff_cases`).
-/

namespace ResultFlow

theorem addWord?_of_le {a b : Nat} (h : a + b ≤ maxWord) : addWord? a b = some (a + b) := if_pos h

theorem addWord?_of_lt {a b : Nat} (h : maxWord < a + b) : addWord? a b = none :=
  if_neg (Nat.not_le.mpr h)

namespace Http

/-! ## Work -/

theorem Done.after_nil {τ α : Type} (d : Done τ α) : d.after [] = d := rfl

namespace Work

variable {τ α β : Type} {w : Work τ α} {s s' : τ} {trace : List Act}

theorem run_bind_of_ok {a : α} (h : w.run s = ⟨.ok a, s', trace⟩) (next : α → Work τ β) :
    (w >>= next).run s = ((next a).run s').after trace := by
  show (Work.bind w next).run s = _
  simp only [Work.bind, h]

theorem run_bind_of_error {e : Error} (h : w.run s = ⟨.error e, s', trace⟩) (next : α → Work τ β) :
    (w >>= next).run s = ⟨.error e, s', trace⟩ := by
  show (Work.bind w next).run s = _
  simp only [Work.bind, h]

theorem run_bind_of_panic {p : Panic} (h : w.run s = ⟨.panic p, s', trace⟩) (next : α → Work τ β) :
    (w >>= next).run s = ⟨.panic p, s', trace⟩ := by
  show (Work.bind w next).run s = _
  simp only [Work.bind, h]

theorem run_step {f : τ → α × τ} {a : α} (h : f s = (a, s')) : (step f).run s = ⟨.ok a, s', []⟩ := by
  show (⟨.ok (f s).1, (f s).2, []⟩ : Done τ α) = _
  rw [h]

end Work

/-! ## The ways of a loop -/

namespace Client

section Ways

variable {τ : Type} {c : Client τ} {t : Transport τ} {r : Request} {authorized : Bool}
  {made number retries : Nat} {earlier : Option String} {s s' : τ} {answer : Answer}

/-- Whether the limit can be computed for reports of a level: it fits, or they are not shown. -/
def LimitFits (c : Client τ) (level : Log.Level) : Prop :=
  c.shows level = true → c.settings.maxRetries < maxWord

/-- The limit that is reported. -/
def limit (c : Client τ) : Nat := c.settings.maxRetries + 1

theorem attemptLimit_of_fits {level : Log.Level} (h : c.LimitFits level) (s : τ) :
    (c.attemptLimit level).run s = ⟨.ok c.limit, s, []⟩ := by
  unfold attemptLimit
  by_cases hs : c.shows level = true
  · rw [if_pos hs, addWord?_of_le (h hs)]
    rfl
  · rw [if_neg hs]
    rfl

theorem attemptLimit_of_not_fits {level : Log.Level} (h : ¬ c.LimitFits level) (s : τ) :
    (c.attemptLimit level).run s = ⟨.panic .addition, s, []⟩ := by
  obtain ⟨hs, hlimit⟩ := Classical.not_imp.mp h
  unfold attemptLimit
  rw [if_pos hs, addWord?_of_lt (by omega)]
  rfl

/-- A request gets its authorization header, or there is none; nothing is done on the way. -/
theorem authorize_cases (c : Client τ) (r : Request) (authorized : Bool) (s : τ) :
    (∃ sent s', (c.authorize r authorized).run s = ⟨.ok sent, s', []⟩) ∨
      ∃ e s', (c.authorize r authorized).run s = ⟨.error e, s', []⟩ := by
  unfold authorize
  cases authorized with
  | false => exact .inl ⟨r, s, rfl⟩
  | true =>
    rw [if_pos rfl]
    rcases hh : c.provider.header s with ⟨e | value, s'⟩
    · have hvalue : c.authorization.run s = ⟨.error e, s', []⟩ := by
        rw [authorization, Work.run_bind_of_ok (Work.run_step hh)]
        rfl
      exact .inr ⟨e, s', Work.run_bind_of_error hvalue _⟩
    · have hvalue : c.authorization.run s = ⟨.ok value, s', []⟩ := by
        rw [authorization, Work.run_bind_of_ok (Work.run_step hh)]
        rfl
      rw [Work.run_bind_of_ok hvalue, Done.after_nil]
      split
      · exact .inl ⟨_, _, rfl⟩
      · exact .inr ⟨_, _, rfl⟩

/-- The report of the attempt after `made` ones. -/
def tried (c : Client τ) (r : Request) (made : Nat) : Act :=
  .report (.attempt r.method r.url.text (made + 1) c.limit)

/-- What is done between an attempt and its repetition. -/
def between (c : Client τ) (r : Request) (number : Nat) (answer : Answer) (pause : Duration) :
    List Act :=
  [.report (retried r.url number c.limit answer), .report (.retryDelayed pause), .wait pause]

/-- The attempt after `made` ones is made, and ends with an answer. -/
def Answered (c : Client τ) (t : Transport τ) (r : Request) (authorized : Bool) (made : Nat) (s : τ)
    (answer : Answer) (s' : τ) : Prop :=
  made < maxWord ∧ c.LimitFits .debug ∧ ∃ sent s₁,
    (c.authorize r authorized).run s = ⟨.ok sent, s₁, []⟩ ∧
      t.send (c.complete sent) s₁ = (answer, s')

/-- The ways of attempts, by how many were made before, the reason of the last repetition, the state,
and how many repetitions are left. -/
inductive Attempting (c : Client τ) (t : Transport τ) (r : Request) (authorized : Bool) :
    Nat → Option String → τ → Nat → Done τ Response → Prop
  /-- The number of the attempt does not fit. -/
  | uncounted {made retries : Nat} {earlier : Option String} {s : τ} (hm : maxWord ≤ made) :
    Attempting c t r authorized made earlier s retries ⟨.panic .addition, s, []⟩
  /-- There is no authorization header. -/
  | denied {made retries : Nat} {earlier : Option String} {s s' : τ} {e : Error}
    (ha : (c.authorize r authorized).run s = ⟨.error e, s', []⟩) :
    Attempting c t r authorized made earlier s retries ⟨.error e, s', []⟩
  /-- The limit does not fit into the report of the attempt. -/
  | unreported {made retries : Nat} {earlier : Option String} {s s' : τ} {sent : Request}
    (ha : (c.authorize r authorized).run s = ⟨.ok sent, s', []⟩) (hl : ¬ c.LimitFits .debug) :
    Attempting c t r authorized made earlier s retries ⟨.panic .addition, s', []⟩
  | last {made retries : Nat} {earlier : Option String} {s s' : τ} {answer : Answer}
    (h : c.Answered t r authorized made s answer s')
    (hr : retries = 0 ∨ retryReason? r.url answer = none) :
    Attempting c t r authorized made earlier s retries
      ⟨.ofExcept (conclude r.url (made + 1) earlier answer), s', [c.tried r made]⟩
  /-- The limit does not fit into the report of the repetition. -/
  | unwarned {made retries : Nat} {earlier : Option String} {s s' : τ} {answer : Answer}
    {reason : String} (h : c.Answered t r authorized made s answer s')
    (hr : retryReason? r.url answer = some reason) (hl : ¬ c.LimitFits .warn) :
    Attempting c t r authorized made earlier s (retries + 1)
      ⟨.panic .addition, s', [c.tried r made]⟩
  /-- The pause does not fit. -/
  | unpaused {made retries : Nat} {earlier : Option String} {s s' : τ} {answer : Answer}
    {reason : String} (h : c.Answered t r authorized made s answer s')
    (hr : retryReason? r.url answer = some reason) (hl : c.LimitFits .warn)
    (hp : c.pause? (made + 1) = none) :
    Attempting c t r authorized made earlier s (retries + 1)
      ⟨.panic .multiplication, s',
        [c.tried r made, .report (retried r.url (made + 1) c.limit answer)]⟩
  | again {made retries : Nat} {earlier : Option String} {s s' : τ} {answer : Answer}
    {reason : String} {pause : Duration} {d : Done τ Response}
    (h : c.Answered t r authorized made s answer s')
    (hr : retryReason? r.url answer = some reason) (hl : c.LimitFits .warn)
    (hp : c.pause? (made + 1) = some pause)
    (rest : Attempting c t r authorized (made + 1) (some reason) s' retries d) :
    Attempting c t r authorized made earlier s (retries + 1)
      (d.after (c.tried r made :: c.between r (made + 1) answer pause))

/-- An attempt that is made comes to its number and its answer. -/
theorem attempt_of_answered (h : c.Answered t r authorized made s answer s') :
    (c.attempt t r authorized made).run s = ⟨.ok (made + 1, answer), s', [c.tried r made]⟩ := by
  obtain ⟨hm, hl, sent, s₁, ha, hs⟩ := h
  unfold attempt
  rw [addWord?_of_le hm, Work.run_bind_of_ok rfl, Done.after_nil, Work.run_bind_of_ok ha,
    Done.after_nil, Work.run_bind_of_ok (attemptLimit_of_fits hl s₁), Done.after_nil,
    Work.run_bind_of_ok rfl, Work.run_bind_of_ok (Work.run_step hs)]
  rfl

/-- An attempt is made, or it has no number, no authorization header or no report. -/
theorem attempt_cases (c : Client τ) (t : Transport τ) (r : Request) (authorized : Bool) (made : Nat)
    (s : τ) :
    (∃ answer s', c.Answered t r authorized made s answer s') ∨
    (maxWord ≤ made ∧ (c.attempt t r authorized made).run s = ⟨.panic .addition, s, []⟩) ∨
    (∃ e s', (c.authorize r authorized).run s = ⟨.error e, s', []⟩ ∧
      (c.attempt t r authorized made).run s = ⟨.error e, s', []⟩) ∨
    ∃ sent s', (c.authorize r authorized).run s = ⟨.ok sent, s', []⟩ ∧ ¬ c.LimitFits .debug ∧
      (c.attempt t r authorized made).run s = ⟨.panic .addition, s', []⟩ := by
  by_cases hm : made < maxWord
  · rcases c.authorize_cases r authorized s with ⟨sent, s', ha⟩ | ⟨e, s', ha⟩
    · by_cases hl : c.LimitFits .debug
      · exact .inl ⟨_, _, hm, hl, sent, s', ha, rfl⟩
      · refine .inr (.inr (.inr ⟨sent, s', ha, hl, ?_⟩))
        unfold attempt
        rw [addWord?_of_le hm, Work.run_bind_of_ok rfl, Done.after_nil, Work.run_bind_of_ok ha,
          Done.after_nil, Work.run_bind_of_panic (attemptLimit_of_not_fits hl s')]
    · refine .inr (.inr (.inl ⟨e, s', ha, ?_⟩))
      unfold attempt
      rw [addWord?_of_le hm, Work.run_bind_of_ok rfl, Done.after_nil, Work.run_bind_of_error ha]
  · refine .inr (.inl ⟨Nat.le_of_not_lt hm, ?_⟩)
    unfold attempt
    rw [addWord?_of_lt (by omega), Work.run_bind_of_panic rfl]

/-- A repetition is reported and waited for, or its report or its pause does not fit. -/
theorem backOff_cases (c : Client τ) (r : Request) (number : Nat) (answer : Answer) (s : τ) :
    (∃ pause, c.LimitFits .warn ∧ c.pause? number = some pause ∧
      (c.backOff r.url number answer).run s = ⟨.ok (), s, c.between r number answer pause⟩) ∨
    (¬ c.LimitFits .warn ∧
      (c.backOff r.url number answer).run s = ⟨.panic .addition, s, []⟩) ∨
    (c.LimitFits .warn ∧ c.pause? number = none ∧ (c.backOff r.url number answer).run s =
      ⟨.panic .multiplication, s, [.report (retried r.url number c.limit answer)]⟩) := by
  unfold backOff
  by_cases hl : c.LimitFits .warn
  · rw [Work.run_bind_of_ok (attemptLimit_of_fits hl s), Done.after_nil, Work.run_bind_of_ok rfl]
    cases hp : c.pause? number with
    | none => exact .inr (.inr ⟨hl, rfl, rfl⟩)
    | some pause => exact .inl ⟨pause, hl, rfl, rfl⟩
  · exact .inr (.inl ⟨hl, Work.run_bind_of_panic (attemptLimit_of_not_fits hl s) _⟩)

/-- Attempts go one of their ways. -/
theorem attempts_attempting (c : Client τ) (t : Transport τ) (r : Request) (authorized : Bool)
    (made : Nat) (earlier : Option String) (retries : Nat) (s : τ) :
    c.Attempting t r authorized made earlier s retries
      ((c.attempts t r authorized made earlier retries).run s) := by
  induction retries generalizing made earlier s with
  | zero =>
    rw [attempts]
    rcases c.attempt_cases t r authorized made s with ⟨answer, s', h⟩ | ⟨hm, he⟩ | ⟨e, s', ha, he⟩ |
      ⟨sent, s', ha, hl, he⟩
    · rw [Work.run_bind_of_ok (attempt_of_answered h)]
      exact .last h (.inl rfl)
    · rw [Work.run_bind_of_panic he]
      exact .uncounted hm
    · rw [Work.run_bind_of_error he]
      exact .denied ha
    · rw [Work.run_bind_of_panic he]
      exact .unreported ha hl
  | succ retries ih =>
    rw [attempts]
    rcases c.attempt_cases t r authorized made s with ⟨answer, s', h⟩ | ⟨hm, he⟩ | ⟨e, s', ha, he⟩ |
      ⟨sent, s', ha, hl, he⟩
    · rw [Work.run_bind_of_ok (attempt_of_answered h)]
      dsimp only
      cases hr : retryReason? r.url answer with
      | none => exact .last h (.inr hr)
      | some reason =>
        dsimp only
        rcases c.backOff_cases r (made + 1) answer s' with ⟨pause, hl, hp, hb⟩ | ⟨hl, hb⟩ |
          ⟨hl, hp, hb⟩
        · rw [Work.run_bind_of_ok hb]
          exact .again h hr hl hp (ih (made + 1) (some reason) s')
        · rw [Work.run_bind_of_panic hb]
          exact .unwarned h hr hl
        · rw [Work.run_bind_of_panic hb]
          exact .unpaused h hr hl hp
    · rw [Work.run_bind_of_panic he]
      exact .uncounted hm
    · rw [Work.run_bind_of_error he]
      exact .denied ha
    · rw [Work.run_bind_of_panic he]
      exact .unreported ha hl

/-- Without an authorization header the first attempt is the last. -/
theorem Attempting.of_unauthorized {d : Done τ Response} {e : Error}
    (h : c.Attempting t r authorized made earlier s retries d) (hm : made < maxWord)
    (ha : (c.authorize r authorized).run s = ⟨.error e, s', []⟩) : d = ⟨.error e, s', []⟩ := by
  have hother : ∀ {sent : Request} {s₁ : τ},
      (c.authorize r authorized).run s ≠ ⟨.ok sent, s₁, []⟩ := by
    intro sent s₁ h
    rw [ha] at h
    cases h
  cases h with
  | uncounted h => omega
  | denied h =>
    rw [ha] at h
    cases h
    rfl
  | unreported h => exact absurd h hother
  | last h | unwarned h | unpaused h | again h =>
    obtain ⟨-, -, sent, s₁, h, -⟩ := h
    exact absurd h hother

end Ways

end Client

end Http

end ResultFlow
