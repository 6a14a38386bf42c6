import ResultFlow.Proofs.Number.Rounding
import ResultFlow.Stream.Producer

/-!
# Demand

The counters of the flow control and the permits of a producer count the same chunks. `Balanced`
says so, and that something is buffered or on its way. The two meet only in the demand that is sent:
a grant adds the same batch to both (`Balanced.grant`), so what a chunk or a reading takes away from
one of them is made up for by a batch before both can run dry (`Balanced.not_dry`).
-/

namespace ResultFlow

/-- Settings under which demand goes on: there is room for a batch, and for a byte. -/
structure StreamSettings.Workable (s : StreamSettings) : Prop where
  target : 1 ≤ s.targetBuffer
  batch : 1 ≤ s.batch
  room : (s.batch : Int) < s.maxOutstanding

/-! ## Grants -/

namespace Flow

variable {f : Flow}

theorem not_atTarget (hf : f.settings.Workable) (h : f.buffered ≤ 0) : f.atTarget = false := by
  have := Binary.wholeDouble_pos hf.target
  have := Binary.integerDouble_nonpos h
  unfold atTarget
  rw [decide_eq_false_iff_not]
  omega

theorem idle_eq_true_iff : f.idle = true ↔ f.outstanding ≤ 0 ∧ f.buffered ≤ 0 := by
  unfold idle
  rw [Bool.and_eq_true, decide_eq_true_iff, decide_eq_true_iff]

/-- With nothing buffered and nothing on its way a batch is asked for. -/
theorem wantsMore_of_idle (hf : f.settings.Workable) (hu : f.unbounded = false)
    (h : f.idle = true) : f.wantsMore = true := by
  obtain ⟨ho, hb⟩ := idle_eq_true_iff.mp h
  have hroom : f.outstanding + f.settings.batch < f.settings.maxOutstanding := by
    have := hf.room
    omega
  unfold wantsMore
  simp only [hu, not_atTarget hf hb, hroom, h, decide_true, Bool.not_false, Bool.or_true,
    Bool.and_true]

@[simp] theorem subscribe_settings (f : Flow) (length : Option Nat) :
    (f.subscribe length).2.settings = f.settings := by
  unfold subscribe
  split <;> rfl

@[simp] theorem subscribe_buffered (f : Flow) (length : Option Nat) :
    (f.subscribe length).2.buffered = f.buffered := by
  unfold subscribe
  split <;> rfl

theorem grant_cases (f : Flow) :
    (f.wantsMore = true ∧ f.grant = (some f.settings.batch,
      { f with outstanding := f.outstanding + f.settings.batch })) ∨
    (f.wantsMore = false ∧ f.grant = (none, f)) := by
  unfold grant
  by_cases h : f.wantsMore = true
  · rw [if_pos h]
    exact .inl ⟨h, rfl⟩
  · rw [if_neg h]
    exact .inr ⟨Bool.eq_false_iff.mpr h, rfl⟩

@[simp] theorem grant_settings (f : Flow) : f.grant.2.settings = f.settings := by
  rcases f.grant_cases with ⟨-, h⟩ | ⟨-, h⟩ <;> rw [h]

@[simp] theorem grant_buffered (f : Flow) : f.grant.2.buffered = f.buffered := by
  rcases f.grant_cases with ⟨-, h⟩ | ⟨-, h⟩ <;> rw [h]

@[simp] theorem grant_unbounded (f : Flow) : f.grant.2.unbounded = f.unbounded := by
  rcases f.grant_cases with ⟨-, h⟩ | ⟨-, h⟩ <;> rw [h]

/-- What is granted counts as outstanding. -/
theorem grant_outstanding (f : Flow) :
    f.grant.2.outstanding = f.outstanding + (f.grant.1.getD 0 : Nat) := by
  rcases f.grant_cases with ⟨-, h⟩ | ⟨-, h⟩ <;> rw [h]
  · rfl
  · exact (Int.add_zero _).symm

/-- Once it is decided whether a batch is asked for, something is buffered or on its way. -/
theorem grant_idle (hf : f.settings.Workable) (hu : f.unbounded = false) (ho : 0 ≤ f.outstanding) :
    f.grant.2.idle = false := by
  rw [Bool.eq_false_iff]
  intro hi
  rcases f.grant_cases with ⟨-, h⟩ | ⟨hw, h⟩ <;> rw [h] at hi
  · have := hf.batch
    have : f.outstanding + f.settings.batch ≤ 0 := (idle_eq_true_iff.mp hi).1
    omega
  · rw [wantsMore_of_idle hf hu hi] at hw
    exact Bool.noConfusion hw

end Flow

/-! ## Permits -/

namespace Permits

variable {p q : Permits}

/-- The permits after demand, if there is any. -/
def grant (p : Permits) (demand : Option Nat) : Permits := demand.elim p p.request

/-- Demand makes the permits unbounded or is added to them. -/
theorem request_cases {n : Nat} (hn : 1 ≤ n) :
    (p.request n).unbounded = true ∨
    p.unbounded = false ∧ p.request n = { p with available := p.available + n } := by
  unfold request
  split
  · rename_i h
    exact .inl (h.resolve_left (by omega))
  · rename_i h
    split
    · exact .inl rfl
    · exact .inr ⟨Bool.eq_false_iff.mpr fun hu => h (.inr hu), rfl⟩

@[simp] theorem request_closed (n : Nat) : (p.request n).closed = p.closed := by
  unfold request
  split
  · rfl
  · split <;> rfl

@[simp] theorem grant_closed (demand : Option Nat) : (p.grant demand).closed = p.closed := by
  cases demand with
  | none => rfl
  | some n => exact request_closed n

theorem acquire?_closed (h : p.acquire? = some q) : q.closed = p.closed := by
  unfold acquire? at h
  split at h
  · cases h; rfl
  · split at h
    · cases h
    · split at h <;> cases h; rfl

/-- Permits that are given out run dry only at zero. -/
theorem dry (hc : p.closed = false) (h : p.acquire? = none) :
    p.unbounded = false ∧ p.available = 0 := by
  unfold acquire? at h
  split at h
  · cases h
  · rename_i hu
    rw [if_neg (Bool.eq_false_iff.mp hc)] at h
    split at h
    · rename_i ha
      exact ⟨Bool.eq_false_iff.mpr hu, ha⟩
    · cases h

end Permits

/-! ## Both count the same chunks -/

/-- Counters and permits agree on the chunks that are on their way, of which `held` have a permit
already. -/
def Agree (f : Flow) (p : Permits) (held : Nat) : Prop :=
  p.unbounded = false → f.unbounded = false ∧ f.outstanding = p.available + held

/-- They agree, and something is buffered or on its way. -/
def Balanced (f : Flow) (p : Permits) (held : Nat) : Prop :=
  Agree f p held ∧ (p.unbounded = false → f.idle = false)

variable {f : Flow} {p q : Permits} {held : Nat}

/-- Unbounded permits need no counters. -/
theorem Balanced.of_unbounded (h : p.unbounded = true) : Balanced f p held :=
  ⟨fun h' => Bool.noConfusion (h.symm.trans h'), fun h' => Bool.noConfusion (h.symm.trans h')⟩

/-- A grant adds the same batch to both, and makes up for what ran dry. -/
theorem Agree.grant (h : Agree f p held) (hf : f.settings.Workable) :
    Balanced f.grant.2 (p.grant f.grant.1) held := by
  have hidle : p.unbounded = false → f.grant.2.idle = false := fun hu =>
    Flow.grant_idle hf (h hu).1 (by have := (h hu).2; omega)
  rcases f.grant_cases with ⟨-, he⟩ | ⟨-, he⟩ <;> rw [he] at hidle ⊢
  · rcases Permits.request_cases (p := p) hf.batch with hu | ⟨hu, hr⟩
    · exact .of_unbounded hu
    · have ho := (h hu).2
      rw [show p.grant (some f.settings.batch) = _ from hr]
      refine ⟨fun _ => ⟨(h hu).1, ?_⟩, fun _ => hidle hu⟩
      show f.outstanding + f.settings.batch = ((p.available + f.settings.batch : Nat) : Int) + held
      omega
  · exact ⟨h, hidle⟩

namespace Balanced

/-- The first demand. -/
theorem subscribe (hf : f.settings.Workable) (length : Option Nat) (hu : f.unbounded = false) :
    Balanced (f.subscribe length).2 (({} : Permits).request (f.subscribe length).1) 0 := by
  unfold Flow.subscribe
  split
  · exact .of_unbounded rfl
  · rcases Permits.request_cases (p := {}) hf.batch with hr | ⟨-, hr⟩
    · exact .of_unbounded hr
    · have := hf.batch
      rw [hr]
      refine ⟨fun _ => ⟨hu, ?_⟩, fun _ => ?_⟩
      · show (f.settings.batch : Int) = ((0 + f.settings.batch : Nat) : Int) + (0 : Nat)
        omega
      · rw [Bool.eq_false_iff, ne_eq, Flow.idle_eq_true_iff]
        show ¬ ((f.settings.batch : Int) ≤ 0 ∧ _)
        omega

/-- A permit that is taken stays on its way. -/
theorem acquire (h : Balanced f p 0) (hq : p.acquire? = some q) : Balanced f q 1 := by
  unfold Permits.acquire? at hq
  split at hq
  · rename_i hu
    cases hq
    exact .of_unbounded hu
  · split at hq
    · cases hq
    · split at hq
      · cases hq
      · rename_i n ha
        cases hq
        refine ⟨fun hu => ⟨(h.1 hu).1, ?_⟩, h.2⟩
        have := (h.1 hu).2
        show f.outstanding = (n : Int) + (1 : Nat)
        omega

/-- A chunk uses its permit. -/
theorem chunk (h : Balanced f p 1) (hf : f.settings.Workable) (size : Nat) :
    Balanced (f.chunk size).2 (p.grant (f.chunk size).1) 0 := by
  refine Agree.grant (f := f.arrive size) (fun hu => ?_) hf
  obtain ⟨hfu, ho⟩ := h.1 hu
  refine ⟨hfu, ?_⟩
  show (if f.unbounded then f.outstanding else f.outstanding - 1) = (p.available : Int) + (0 : Nat)
  rw [if_neg (Bool.eq_false_iff.mp hfu)]
  omega

/-- What is read makes room for more. -/
theorem consumed (h : Balanced f p held) (hf : f.settings.Workable) (size : Nat) :
    Balanced (f.consumed size).2 (p.grant (f.consumed size).1) held :=
  Agree.grant (f := f.leave size) h.1 hf

/-- With nothing buffered there is a permit. -/
theorem not_dry (h : Balanced f p 0) (hc : p.closed = false) (hb : f.buffered = 0) :
    p.acquire? ≠ none := by
  intro hn
  obtain ⟨hu, ha⟩ := Permits.dry hc hn
  have hi := h.2 hu
  have ho := (h.1 hu).2
  rw [Bool.eq_false_iff, ne_eq, Flow.idle_eq_true_iff] at hi
  omega

end Balanced

end ResultFlow
