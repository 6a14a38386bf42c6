import ResultFlow.Http.Download
import ResultFlow.Proofs.Stream.Demand

/-!
# Pumps

A producer at work, in the steps between which demand and a cancellation can come. For each piece of
the body and for its end it looks whether the demand is bounded, takes a permit if it is, and tells
the piece (`Pump.Step`). One that is cancelled may still take the step that it is ready for.

`Pump.Sound` holds before and after each step: what is told and what is left make up the story, and
each piece, each permit and the piece at hand was asked for. So a pump waits exactly when all that
was asked for is told (`Pump.Sound.waits_iff`). Once it is cancelled, what is told and owed together
does not grow (`Pump.step_of_closed`).
-/

namespace ResultFlow

namespace Permits

/-- Takes a permit without a look at whether the demand is bounded. -/
def take? (p : Permits) : Option Permits :=
  if p.closed then none
  else match p.available with
    | 0 => none
    | n + 1 => some { p with available := n }

/-- To acquire a permit is to look at the demand and to take one at once. -/
theorem acquire?_eq (p : Permits) : p.acquire? = if p.unbounded then some p else p.take? := rfl

theorem take?_eq_some_iff {p q : Permits} :
    p.take? = some q ↔
      p.closed = false ∧ p.available = q.available + 1 ∧ q = { p with available := q.available } := by
  unfold take?
  constructor
  · intro h
    split at h
    · cases h
    · rename_i hc
      split at h
      · cases h
      · rename_i n ha
        cases h
        exact ⟨Bool.eq_false_iff.mpr hc, ha, rfl⟩
  · rintro ⟨hc, ha, hq⟩
    rw [if_neg (Bool.eq_false_iff.mp hc), ha, hq]

theorem take?_eq_none_iff {p : Permits} (hc : p.closed = false) :
    p.take? = none ↔ p.available = 0 := by
  unfold take?
  rw [if_neg (Bool.eq_false_iff.mp hc)]
  split <;> simp_all

/-- Demand that is bounded was so before it grew, and grew by what was asked for. -/
theorem available_request {p : Permits} {n : Nat} (h : (p.request n).unbounded = false) :
    p.unbounded = false ∧ (p.request n).available = p.available + n := by
  cases n with
  | zero =>
    have he : p.request 0 = p := if_pos (.inl rfl)
    rw [he] at h ⊢
    exact ⟨h, rfl⟩
  | succ n =>
    rcases request_cases (p := p) (Nat.le_add_left 1 n) with hu | ⟨hu, he⟩
    · rw [hu] at h
      cases h
    · rw [he]
      exact ⟨hu, rfl⟩

end Permits

/-- A delivery is that of the next piece, or of the end when none is left. -/
theorem Producer.deliver?_eq_some {p q : Producer} {c : Callback} (h : p.deliver? = some (c, q)) :
    p.stopped = false ∧ p.holding = true ∧
      ((∃ bytes ahead, p.ahead = bytes :: ahead ∧ c = .next bytes ∧
          q = { p with ahead, holding := false, delivered := p.delivered + bytes.length }) ∨
        p.ahead = [] ∧ c = p.ending ∧ q = { p with holding := false, stopped := true }) := by
  unfold deliver? at h
  split at h
  · cases h
  · rename_i hr
    rw [Bool.or_eq_true, not_or, Bool.not_eq_true, Bool.not_eq_true', Bool.not_eq_false] at hr
    refine ⟨hr.1, hr.2, ?_⟩
    split at h
    · rename_i bytes ahead ha
      cases h
      exact .inl ⟨bytes, ahead, ha, rfl, rfl⟩
    · rename_i ha
      cases h
      exact .inr ⟨ha, rfl, rfl⟩

namespace Http

/-! ## The task -/

/-- What a subscriber is told of an object. -/
inductive Notice
  | answered (info : ObjectInfo)
  | subscribed
  | told (c : Callback)
  deriving DecidableEq

/-- Whether a piece of the body is told. -/
def Notice.isPiece : Notice → Bool
  | told (.next _) => true
  | told .finish | told (.fail _) | answered _ | subscribed => false

/-- A producer at work. -/
structure Pump where
  producer : Producer
  /-- Whether it found the demand bounded, and takes a permit. -/
  committed : Bool := false

namespace Pump

/-- The next step, and what is told in it; `none` if it must wait or has stopped. -/
def step? (u : Pump) : Option (Option Callback × Pump) :=
  if u.producer.stopped then none
  else if u.producer.holding then u.producer.deliver?.map fun (c, p) => (some c, ⟨p, false⟩)
  else if u.committed then
    u.producer.permits.take?.map fun permits =>
      (none, ⟨{ u.producer with permits, holding := true }, false⟩)
  else if u.producer.permits.unbounded then
    some (none, ⟨{ u.producer with holding := true }, false⟩)
  else some (none, ⟨u.producer, true⟩)

/-- The pump after its next step, if there is one. -/
def next (u : Pump) : Pump := u.step?.elim u (·.2)

/-- It waits for demand. -/
def Waits (u : Pump) : Prop := u.producer.stopped = false ∧ u.step? = none

def request (u : Pump) (n : Nat) : Pump := { u with producer := u.producer.request n }

/-- Cancels. This counts from when the permits are closed; a task that sees the cancellation a moment
before, and stops, could as well have stopped after it. -/
def cancel (u : Pump) : Pump := { u with producer := u.producer.cancel }

/-- Stops, if it was cancelled. -/
def stop (u : Pump) : Pump := { u with producer := u.producer.stop?.getD u.producer }

/-- What a step of a pump does. -/
inductive Step (u : Pump) : Option Callback → Pump → Prop
  /-- A piece of the body is told. -/
  | next {bytes : Bytes} {ahead : List Bytes} (held : u.producer.holding = true)
      (left : u.producer.ahead = bytes :: ahead) :
      Step u (some (.next bytes)) ⟨{ u.producer with
        ahead, holding := false, delivered := u.producer.delivered + bytes.length }, false⟩
  /-- The end of the body is told. -/
  | last (held : u.producer.holding = true) (left : u.producer.ahead = []) :
      Step u (some u.producer.ending) ⟨{ u.producer with holding := false, stopped := true }, false⟩
  /-- A permit is taken. -/
  | take {q : Permits} (free : u.producer.holding = false) (committed : u.committed = true)
      (taken : u.producer.permits.take? = some q) :
      Step u none ⟨{ u.producer with permits := q, holding := true }, false⟩
  /-- Unbounded demand needs no permit. -/
  | pass (free : u.producer.holding = false) (looks : u.committed = false)
      (unbounded : u.producer.permits.unbounded = true) :
      Step u none ⟨{ u.producer with holding := true }, false⟩
  /-- The demand is found bounded. -/
  | commit (free : u.producer.holding = false) (looks : u.committed = false)
      (bounded : u.producer.permits.unbounded = false) :
      Step u none ⟨u.producer, true⟩

theorem step?_eq_some_iff {u v : Pump} {c : Option Callback} :
    u.step? = some (c, v) ↔ u.producer.stopped = false ∧ Step u c v := by
  constructor
  · intro h
    unfold step? at h
    by_cases hs : u.producer.stopped = true
    · rw [if_pos hs] at h
      cases h
    rw [if_neg hs] at h
    refine ⟨Bool.eq_false_iff.mpr hs, ?_⟩
    by_cases hh : u.producer.holding = true
    · rw [if_pos hh] at h
      obtain ⟨⟨c, p⟩, hd, he⟩ := Option.map_eq_some_iff.mp h
      cases he
      obtain ⟨-, -, ⟨bytes, ahead, ha, rfl, rfl⟩ | ⟨ha, rfl, rfl⟩⟩ := Producer.deliver?_eq_some hd
      · exact .next hh ha
      · exact .last hh ha
    rw [if_neg hh] at h
    have hh := Bool.eq_false_iff.mpr hh
    by_cases hc : u.committed = true
    · rw [if_pos hc] at h
      obtain ⟨q, hq, he⟩ := Option.map_eq_some_iff.mp h
      cases he
      exact .take hh hc hq
    rw [if_neg hc] at h
    have hc := Bool.eq_false_iff.mpr hc
    by_cases hu : u.producer.permits.unbounded = true
    · rw [if_pos hu] at h
      cases h
      exact .pass hh hc hu
    · rw [if_neg hu] at h
      cases h
      exact .commit hh hc (Bool.eq_false_iff.mpr hu)
  · rintro ⟨hs, h⟩
    unfold step?
    cases h with
    | next held left => simp [Producer.deliver?, hs, held, left]
    | last held left => simp [Producer.deliver?, hs, held, left]
    | take free committed taken => simp [hs, free, committed, taken]
    | pass free looks unbounded => simp [hs, free, looks, unbounded]
    | commit free looks bounded => simp [hs, free, looks, bounded]

/-- A pump waits when it found the demand bounded and gets no permit. -/
theorem waits_iff {u : Pump} :
    u.Waits ↔ u.producer.stopped = false ∧ u.producer.holding = false ∧ u.committed = true ∧
      u.producer.permits.take? = none := by
  unfold Waits step?
  refine and_congr_right fun hs => ?_
  rw [if_neg (Bool.eq_false_iff.mp hs)]
  constructor
  · intro h
    by_cases hh : u.producer.holding = true
    · rw [if_pos hh] at h
      unfold Producer.deliver? at h
      cases ha : u.producer.ahead <;> simp [hs, hh, ha] at h
    rw [if_neg hh] at h
    by_cases hc : u.committed = true
    · rw [if_pos hc, Option.map_eq_none_iff] at h
      exact ⟨Bool.eq_false_iff.mpr hh, hc, h⟩
    · rw [if_neg hc] at h
      split at h <;> cases h
  · rintro ⟨hh, hc, ht⟩
    rw [if_neg (Bool.eq_false_iff.mp hh), if_pos hc, ht]
    rfl

/-- A pump of bounded demand waits, at most after a look at the demand, exactly when it holds no
permit and gets none. -/
theorem next_waits_iff {u : Pump} (hr : u.producer.stopped = false)
    (hu : u.producer.permits.unbounded = false) :
    u.next.Waits ↔ u.producer.holding = false ∧ u.producer.permits.take? = none := by
  constructor
  · intro hw
    cases hs : u.step? with
    | none =>
      obtain ⟨-, hh, -, ht⟩ := waits_iff.mp ⟨hr, hs⟩
      exact ⟨hh, ht⟩
    | some x =>
      obtain ⟨c, v⟩ := x
      have hnext : u.next = v := by
        rw [next, hs]
        rfl
      rw [hnext] at hw
      obtain ⟨hr', hh, hcommitted, ht⟩ := waits_iff.mp hw
      -- only a look at the demand leaves a pump that waits
      cases (step?_eq_some_iff.mp hs).2 with
      | next held left => cases hcommitted
      | last held left => cases hr'
      | take free committed taken => cases hh
      | pass free looks unbounded => cases hh
      | commit free looks bounded => exact ⟨free, ht⟩
  · rintro ⟨hh, ht⟩
    have hnext : u.next = ⟨u.producer, true⟩ := by
      obtain ⟨p, committed⟩ := u
      unfold next
      cases committed with
      | false =>
        rw [step?_eq_some_iff.mpr ⟨hr, .commit hh rfl hu⟩]
        rfl
      | true =>
        rw [(waits_iff.mpr ⟨hr, hh, rfl, ht⟩).2]
        rfl
    rw [hnext]
    exact waits_iff.mpr ⟨hr, hh, rfl, ht⟩

/-! ## What is told, and what was asked for -/

/-- What a producer has still to tell. -/
def rest (p : Producer) : List Notice :=
  p.ahead.map (fun bytes => .told (.next bytes)) ++ [.told p.ending]

/-- What was told is a part of the story from its start, and the rest of it is left while the task
runs. Of bounded demand, each piece that was told and each permit was asked for; while the task
runs there are no others. -/
structure Sound (story notices : List Notice) (asked : Nat) (u : Pump) : Prop where
  within : notices <+: story
  whole : u.producer.stopped = false → notices ++ rest u.producer = story
  covered : u.producer.permits.unbounded = false →
    notices.countP Notice.isPiece + u.producer.permits.available + u.producer.holding.toNat ≤ asked
  exact : u.producer.permits.unbounded = false → u.producer.stopped = false →
    notices.countP Notice.isPiece + u.producer.permits.available + u.producer.holding.toNat = asked

namespace Sound

variable {tale notices : List Notice} {asked : Nat} {u v : Pump}

theorem of_whole (hw : notices ++ rest v.producer = tale)
    (he : v.producer.permits.unbounded = false →
      notices.countP Notice.isPiece + v.producer.permits.available + v.producer.holding.toNat =
        asked) : v.Sound tale notices asked where
  within := ⟨_, hw⟩
  whole _ := hw
  covered hu := Nat.le_of_eq (he hu)
  exact hu _ := he hu

/-- A step of the task keeps what it tells in the story. -/
theorem step (h : u.Sound tale notices asked) {c : Option Callback} (hs : u.step? = some (c, v)) :
    v.Sound tale (notices ++ (c.map Notice.told).toList) asked := by
  obtain ⟨hr, hs⟩ := step?_eq_some_iff.mp hs
  have hw := h.whole hr
  have he := fun hu => h.exact hu hr
  cases hs with
  | @next bytes ahead held left =>
    rw [rest, left, List.map_cons, List.cons_append] at hw
    refine of_whole ?_ fun hu => ?_
    · rw [← hw, List.append_assoc]
      rfl
    · have he := he hu
      rw [held] at he
      rw [List.countP_append]
      show notices.countP Notice.isPiece + 1 + u.producer.permits.available + 0 = asked
      simp only [Bool.toNat_true] at he
      omega
  | last held left =>
    rw [rest, left, List.map_nil, List.nil_append] at hw
    refine ⟨⟨[], (List.append_nil _).trans hw⟩, nofun, fun hu => ?_, nofun⟩
    have he := he hu
    have hend : [Notice.told u.producer.ending].countP Notice.isPiece = 0 := by
      unfold Producer.ending
      split <;> rfl
    rw [List.countP_append]
    show notices.countP Notice.isPiece + [Notice.told u.producer.ending].countP Notice.isPiece +
      u.producer.permits.available + 0 ≤ asked
    omega
  | @take q free committed taken =>
    obtain ⟨-, ha, hq⟩ := Permits.take?_eq_some_iff.mp taken
    rw [Option.map_none, Option.toList_none, List.append_nil]
    refine of_whole hw fun hu => ?_
    rw [hq] at hu
    have he := he hu
    rw [ha, free] at he
    simp only [Bool.toNat_false] at he
    show _ + q.available + 1 = asked
    omega
  | pass free looks unbounded =>
    rw [Option.map_none, Option.toList_none, List.append_nil]
    refine of_whole hw fun hu => ?_
    rw [unbounded] at hu
    cases hu
  | commit free looks bounded =>
    rw [Option.map_none, Option.toList_none, List.append_nil]
    exact of_whole hw he

/-- Demand counts as asked for. -/
theorem request (h : u.Sound tale notices asked) (n : Nat) :
    (u.request n).Sound tale notices (asked + n) where
  within := h.within
  whole := h.whole
  covered hu := by
    obtain ⟨hu, ha⟩ := Permits.available_request hu
    have hle := h.covered hu
    show notices.countP Notice.isPiece + (u.producer.permits.request n).available +
      u.producer.holding.toNat ≤ asked + n
    omega
  exact hu hr := by
    obtain ⟨hu, ha⟩ := Permits.available_request hu
    have he := h.exact hu hr
    show notices.countP Notice.isPiece + (u.producer.permits.request n).available +
      u.producer.holding.toNat = asked + n
    omega

theorem cancel (h : u.Sound tale notices asked) : u.cancel.Sound tale notices asked :=
  { h with }

theorem stop (h : u.Sound tale notices asked) : u.stop.Sound tale notices asked := by
  unfold Pump.stop Producer.stop?
  split
  · exact { h with whole := nofun, exact := nofun }
  · exact h

/-- A pump of bounded demand that is not cancelled waits, at most after a look at the demand,
exactly when all that was asked for is told. -/
theorem waits_iff (h : u.Sound tale notices asked) (hu : u.producer.permits.unbounded = false)
    (hr : u.producer.stopped = false) (hc : u.producer.permits.closed = false) :
    u.next.Waits ↔ notices.countP Notice.isPiece = asked := by
  rw [next_waits_iff hr hu, Permits.take?_eq_none_iff hc]
  have he := h.exact hu hr
  constructor
  · rintro ⟨hh, ha⟩
    rw [hh, ha] at he
    exact he
  · intro ht
    constructor
    · cases hh : u.producer.holding
      · rfl
      · rw [hh, Bool.toNat_true] at he
        omega
    · omega

end Sound

/-! ## After a cancellation -/

variable {u v : Pump}

/-- What a pump may still tell when it gets no more permits. -/
def owed (u : Pump) : Nat := (u.producer.holding && !u.producer.stopped).toNat

theorem owed_le (u : Pump) : u.owed ≤ 1 := Bool.toNat_le _

theorem stop_permits (u : Pump) : u.stop.producer.permits = u.producer.permits := by
  unfold stop Producer.stop?
  split <;> rfl

theorem owed_stop_le (u : Pump) : u.stop.owed ≤ u.owed := by
  unfold stop Producer.stop?
  split
  · unfold owed
    rw [Option.getD_some, Bool.not_true, Bool.and_false]
    exact Nat.zero_le _
  · exact Nat.le_refl _

/-- Of bounded demand, a step without permits tells only what is owed. -/
theorem step_of_closed (hc : u.producer.permits.closed = true) {c : Option Callback}
    (hs : u.step? = some (c, v)) :
    v.producer.permits.closed = true ∧
      (v.producer.permits.unbounded = false → u.producer.permits.unbounded = false ∧
        c.toList.length + v.owed ≤ u.owed) := by
  obtain ⟨hr, hs⟩ := step?_eq_some_iff.mp hs
  cases hs with
  | next held left =>
    refine ⟨hc, fun hu => ⟨hu, ?_⟩⟩
    unfold owed
    rw [held, hr]
    exact Nat.le_refl _
  | last held left =>
    refine ⟨hc, fun hu => ⟨hu, ?_⟩⟩
    unfold owed
    rw [held, hr]
    exact Nat.le_refl _
  | take free committed taken =>
    rw [(Permits.take?_eq_some_iff.mp taken).1] at hc
    cases hc
  | pass free looks unbounded =>
    refine ⟨hc, fun hu => ?_⟩
    rw [unbounded] at hu
    cases hu
  | commit free looks bounded =>
    refine ⟨hc, fun hu => ⟨hu, ?_⟩⟩
    unfold owed
    rw [free]
    exact Nat.le_refl _

end Pump

end Http

end ResultFlow
