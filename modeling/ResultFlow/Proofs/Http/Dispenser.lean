import ResultFlow.Proofs.Http.Pump

/-!
# Permits under any demand

Permits are given to one taker, who waits while there are none. Demand may be of any size: it adds
permits below the limit, and the first demand that would reach the limit makes itself unbounded and
adds a single permit, for a taker who waits. So the permits are always within the limit, and until
then none is lost or made up.

1. `Permits.request?` is a request in arithmetic that can fail, by a difference below zero or by a
   sum above the limit; while the permits are below the limit it does not (`request?_eq`).
2. `Dispenser.Sound` counts permits, permits taken and what was asked for. Every event keeps it.
3. Main statement: the count, the switch to unbounded demand, and what it gives to a taker who waits.
-/

namespace ResultFlow

namespace Permits

variable {p : Permits} {n : Nat}

/-! ## Requests in arithmetic that can fail -/

/-- The number of permits that the limit leaves room for. -/
def room? (p : Permits) : Option Nat :=
  if p.available ≤ limit then some (limit - p.available) else none

/-- Adds permits, unless they would pass the limit. -/
def add? (p : Permits) (n : Nat) : Option Permits :=
  if p.available + n ≤ limit then some { p with available := p.available + n } else none

/-- A request for `n` permits. -/
def request? (p : Permits) (n : Nat) : Option Permits :=
  if n = 0 ∨ p.unbounded then some p
  else p.room?.bind fun room =>
    if room ≤ n then { p with unbounded := true }.add? 1 else p.add? n

/-- Bounded demand for permits below the limit. -/
def Below (p : Permits) : Prop := p.unbounded = false → p.available < limit

theorem request_of_unbounded (hu : p.unbounded = true) (n : Nat) : p.request n = p :=
  if_pos (.inr hu)

/-- Demand below the limit is added. -/
theorem request_of_lt (hu : p.unbounded = false) (hn : p.available + n < limit) :
    p.request n = { p with available := p.available + n } := by
  unfold request
  by_cases hz : n = 0
  · rw [if_pos (.inl hz), hz, Nat.add_zero]
  · rw [if_neg (by simp [hz, hu]), if_neg (by omega)]

/-- Demand that would reach the limit becomes unbounded, and adds one permit. -/
theorem request_of_le (hb : p.Below) (hu : p.unbounded = false) (hn : limit ≤ p.available + n) :
    p.request n = { p with unbounded := true, available := p.available + 1 } := by
  have hlt := hb hu
  unfold request
  rw [if_neg (by simp [hu]; omega), if_pos (by omega)]

/-- Below the limit no request fails. -/
theorem request?_eq (hb : p.Below) (n : Nat) : p.request? n = some (p.request n) := by
  unfold request?
  by_cases hz : n = 0 ∨ p.unbounded = true
  · rw [if_pos hz]
    exact congrArg some (if_pos hz).symm
  rw [if_neg hz]
  obtain ⟨-, hu⟩ := not_or.mp hz
  have hu := Bool.eq_false_iff.mpr hu
  have hlt := hb hu
  have hroom : p.room? = some (limit - p.available) := if_pos (Nat.le_of_lt hlt)
  rw [hroom, Option.bind_some]
  by_cases hn : limit ≤ p.available + n
  · rw [if_pos (by omega), request_of_le hb hu hn]
    exact if_pos (show p.available + 1 ≤ limit by omega)
  · rw [if_neg (by omega), request_of_lt hu (by omega)]
    exact if_pos (show p.available + n ≤ limit by omega)

end Permits

/-! ## The taker -/

/-- Permits and their taker. -/
structure Dispenser where
  permits : Permits := {}
  /-- Whether the taker waits for a permit. -/
  waiting : Bool := false
  /-- The permits that were taken. -/
  taken : Nat := 0

namespace Dispenser

variable {d : Dispenser} {asked : Nat}

/-- What happens, one thing at a time. -/
inductive Event
  | request (n : Nat)
  | acquire
  | cancel

/-- The permits that an event asks for. -/
def Event.demand : Event → Nat
  | request n => n
  | acquire | cancel => 0

/-- A taker who waits gets a permit, if there is one. -/
def serve (d : Dispenser) : Dispenser :=
  if d.waiting then
    match d.permits.take? with
    | some permits => { permits, taken := d.taken + 1 }
    | none => d
  else d

/-- A taker who comes for a permit waits until it is served; a cancelled one goes away. -/
def step (d : Dispenser) : Event → Dispenser
  | .request n => { d with permits := d.permits.request n }.serve
  | .acquire => { d with waiting := !d.permits.closed }.serve
  | .cancel => { d with permits := d.permits.close, waiting := false }

/-- A new dispenser after events in turn. -/
def run (events : List Event) : Dispenser := events.foldl step {}

/-- What was asked for by events in turn. -/
def demanded (events : List Event) : Nat := events.foldr (fun e n => e.demand + n) 0

theorem run_concat (events : List Event) (e : Event) : run (events ++ [e]) = (run events).step e := by
  unfold run
  rw [List.foldl_append]
  rfl

theorem run_append (events later : List Event) :
    run (events ++ later) = later.foldl step (run events) := List.foldl_append

/-- Either nobody is served, or a taker who waits takes one of the permits. -/
theorem serve_cases (d : Dispenser) :
    (d.serve = d ∧ (d.waiting = true → d.permits.take? = none)) ∨
    ∃ n, d.waiting = true ∧ d.permits.closed = false ∧ d.permits.available = n + 1 ∧
      d.serve = { permits := { d.permits with available := n }, taken := d.taken + 1 } := by
  unfold serve
  by_cases hw : d.waiting = true
  · rw [if_pos hw]
    cases ht : d.permits.take? with
    | none => exact .inl ⟨rfl, fun _ => rfl⟩
    | some q =>
      obtain ⟨hc, ha, hq⟩ := Permits.take?_eq_some_iff.mp ht
      refine .inr ⟨q.available, hw, hc, ha, ?_⟩
      rw [← hq]
  · rw [if_neg hw]
    exact .inl ⟨rfl, fun h => absurd h hw⟩

@[simp] theorem serve_unbounded (d : Dispenser) :
    d.serve.permits.unbounded = d.permits.unbounded := by
  rcases d.serve_cases with ⟨he, -⟩ | ⟨n, -, -, -, he⟩ <;> rw [he]

/-! ## What every event keeps -/

/-- The permits are within the limit, and below it while the demand is bounded; then they and those
that were taken are what was asked for. -/
structure Counted (d : Dispenser) (asked : Nat) : Prop where
  within : d.permits.available ≤ Permits.limit
  below : d.permits.Below
  exact : d.permits.unbounded = false → d.permits.available + d.taken = asked

/-- A taker waits only while it may come and there is no permit. -/
structure Sound (d : Dispenser) (asked : Nat) : Prop extends d.Counted asked where
  patient : d.waiting = true → d.permits.closed = false ∧ d.permits.available = 0

theorem sound_start : Sound {} 0 where
  within := Nat.zero_le _
  below _ := by decide
  exact _ := rfl
  patient := nofun

/-- Serving the taker only moves a permit. -/
theorem Counted.serve (h : d.Counted asked) (hw : d.waiting = true → d.permits.closed = false) :
    d.serve.Sound asked := by
  rcases d.serve_cases with ⟨he, hnone⟩ | ⟨n, -, -, ha, he⟩ <;> rw [he]
  · exact ⟨h, fun hd => ⟨hw hd, (Permits.take?_eq_none_iff (hw hd)).mp (hnone hd)⟩⟩
  · have hwithin := h.within
    rw [ha] at hwithin
    refine ⟨⟨Nat.le_of_succ_le hwithin, fun hu => ?_, fun hu => ?_⟩, nofun⟩
    · exact hwithin
    · have hexact := h.exact hu
      rw [ha] at hexact
      show n + (d.taken + 1) = asked
      omega

/-- Demand is added, or becomes unbounded. -/
theorem Counted.request (h : d.Counted asked) (n : Nat) :
    ({ d with permits := d.permits.request n } : Dispenser).Counted (asked + n) := by
  cases hu : d.permits.unbounded with
  | true =>
    rw [Permits.request_of_unbounded hu]
    exact ⟨h.within, h.below, fun hb => absurd (hu.symm.trans hb) (by decide)⟩
  | false =>
    have hlt := h.below hu
    have hexact := h.exact hu
    by_cases hn : Permits.limit ≤ d.permits.available + n
    · rw [Permits.request_of_le h.below hu hn]
      exact ⟨hlt, nofun, nofun⟩
    · rw [Permits.request_of_lt hu (Nat.lt_of_not_le hn)]
      refine ⟨Nat.le_of_not_le hn, fun _ => Nat.lt_of_not_le hn, fun _ => ?_⟩
      show d.permits.available + n + d.taken = asked + n
      omega

theorem Sound.step (h : d.Sound asked) (e : Event) : (d.step e).Sound (asked + e.demand) := by
  cases e with
  | request n =>
    refine (h.toCounted.request n).serve fun hw => ?_
    rw [Permits.request_closed]
    exact (h.patient hw).1
  | acquire =>
    refine Counted.serve (d := { d with waiting := !d.permits.closed }) ⟨h.within, h.below, h.exact⟩ ?_
    intro hw
    simpa using hw
  | cancel => exact ⟨⟨h.within, h.below, h.exact⟩, nofun⟩

theorem Sound.run (h : d.Sound asked) (events : List Event) :
    (events.foldl Dispenser.step d).Sound (asked + demanded events) := by
  induction events generalizing d asked with
  | nil => exact h
  | cons e events ih =>
    have hrun := ih (h.step e)
    rw [Nat.add_assoc] at hrun
    exact hrun

theorem sound_run (events : List Event) : (run events).Sound (demanded events) := by
  have hrun := sound_start.run events
  rw [Nat.zero_add] at hrun
  exact hrun

/-! ## Unbounded demand -/

/-- Unbounded demand stays unbounded. -/
theorem step_unbounded (hu : d.permits.unbounded = true) (e : Event) :
    (d.step e).permits.unbounded = true := by
  cases e with
  | request n =>
    rw [step, serve_unbounded, Permits.request_of_unbounded hu]
    exact hu
  | acquire =>
    rw [step, serve_unbounded]
    exact hu
  | cancel => exact hu

theorem foldl_unbounded (hu : d.permits.unbounded = true) (later : List Event) :
    (later.foldl step d).permits.unbounded = true := by
  induction later generalizing d with
  | nil => exact hu
  | cons e later ih => exact ih (step_unbounded hu e)

/-- Bounded demand becomes unbounded exactly by a request that would reach the limit. -/
theorem step_unbounded_iff (hb : d.permits.Below) (hu : d.permits.unbounded = false) (e : Event) :
    (d.step e).permits.unbounded = true ↔
      ∃ n, e = .request n ∧ Permits.limit ≤ d.permits.available + n := by
  have hne : d.permits.unbounded ≠ true := Bool.eq_false_iff.mp hu
  cases e with
  | request n =>
    rw [step, serve_unbounded]
    by_cases hn : Permits.limit ≤ d.permits.available + n
    · rw [Permits.request_of_le hb hu hn]
      exact ⟨fun _ => ⟨n, rfl, hn⟩, fun _ => rfl⟩
    · rw [Permits.request_of_lt hu (Nat.lt_of_not_le hn)]
      refine ⟨fun h => absurd h hne, ?_⟩
      rintro ⟨_, ⟨⟩, h⟩
      exact absurd h hn
  | acquire =>
    rw [step, serve_unbounded]
    exact ⟨fun h => absurd h hne, nofun⟩
  | cancel => exact ⟨fun h => absurd h hne, nofun⟩

/-- The switch to unbounded demand adds one permit, which a taker who waits takes. -/
theorem switch_eq (h : d.Sound asked) (hu : d.permits.unbounded = false) {n : Nat}
    (hn : Permits.limit ≤ d.permits.available + n) :
    d.step (.request n) =
      if d.waiting then { permits := { d.permits with unbounded := true }, taken := d.taken + 1 }
      else { d with permits :=
        { d.permits with unbounded := true, available := d.permits.available + 1 } } := by
  rw [step, Permits.request_of_le h.below hu hn]
  unfold serve
  cases hw : d.waiting with
  | false => rfl
  | true =>
    obtain ⟨hc, ha⟩ := h.patient hw
    have ht : ({ d.permits with unbounded := true, available := d.permits.available + 1 } :
        Permits).take? = some { d.permits with unbounded := true } :=
      Permits.take?_eq_some_iff.mpr ⟨hc, rfl, rfl⟩
    dsimp only
    rw [if_pos rfl, if_pos rfl, ht]

/-- **Permits never overflow and are never lost.** Whatever is asked for and taken, the permits stay
within the limit, and no request fails for its arithmetic. While the demand is bounded, the permits
and those that were taken are exactly what was asked for, and it becomes unbounded by the first
request that would reach the limit, and by nothing else. That request adds one permit: a taker who
waits gets it, and otherwise it is there for one who comes. From then on the demand stays
unbounded. -/
theorem permits_within_limit (events : List Event) :
    let d := run events
    d.permits.available ≤ Permits.limit ∧
    (∀ n, d.permits.request? n = some (d.permits.request n)) ∧
    (d.permits.unbounded = false →
      d.permits.available + d.taken = demanded events ∧
      (∀ e, (run (events ++ [e])).permits.unbounded = true ↔
        ∃ n, e = .request n ∧ Permits.limit ≤ d.permits.available + n) ∧
      ∀ n, Permits.limit ≤ d.permits.available + n →
        let t := run (events ++ [.request n])
        (d.waiting = true → t.waiting = false ∧ t.taken = d.taken + 1) ∧
        (d.waiting = false → t.taken = d.taken ∧
          t.permits.available = d.permits.available + 1)) ∧
    (d.permits.unbounded = true → ∀ later, (run (events ++ later)).permits.unbounded = true) := by
  intro d
  have h : d.Sound (demanded events) := sound_run events
  refine ⟨h.within, Permits.request?_eq h.below, fun hu => ⟨h.exact hu, fun e => ?_, ?_⟩,
    fun hu later => ?_⟩
  · rw [run_concat]
    exact step_unbounded_iff h.below hu e
  · intro n hn t
    have ht : t = _ := (run_concat events (.request n)).trans (switch_eq h hu hn)
    rw [ht]
    constructor
    · intro hw
      rw [if_pos hw]
      exact ⟨rfl, rfl⟩
    · intro hw
      rw [if_neg (Bool.eq_false_iff.mp hw)]
      exact ⟨rfl, rfl⟩
  · rw [run_append]
    exact foldl_unbounded hu later

/-- Two permits are asked for and three times one is to be taken; the greatest demand of 64 bits then
serves the taker who waits, and one more request changes nothing. -/
theorem permits_within_limit_greatest :
    let events : List Event := [.request 0, .request 2, .acquire, .acquire, .acquire]
    let greatest := 0xFFFFFFFFFFFFFFFF
    let d := run events
    let t := run (events ++ [.request greatest])
    (d.permits.available + d.taken = 2 ∧ d.waiting = true ∧ d.permits.unbounded = false) ∧
      (t.permits.unbounded = true ∧ t.waiting = false ∧ t.taken = 3) ∧
      t.permits.request? greatest = some t.permits ∧
      (run (events ++ [.request greatest] ++ [.request greatest, .acquire])).permits.unbounded =
        true := by
  intro events greatest d t
  have hu : d.permits.unbounded = false := rfl
  obtain ⟨-, -, hbounded, -⟩ := permits_within_limit events
  obtain ⟨hexact, hswitch, hserved⟩ := hbounded hu
  obtain ⟨-, hrequest, -, hstays⟩ := permits_within_limit (events ++ [.request greatest])
  have hn : Permits.limit ≤ d.permits.available + greatest := by decide
  have ht : t.permits.unbounded = true := (hswitch _).mpr ⟨greatest, rfl, hn⟩
  obtain ⟨hwaiting, htaken⟩ := (hserved greatest hn).1 rfl
  refine ⟨⟨hexact, rfl, hu⟩, ⟨ht, hwaiting, htaken⟩, ?_, hstays ht _⟩
  rw [hrequest, Permits.request_of_unbounded ht]

end Dispenser

end ResultFlow
