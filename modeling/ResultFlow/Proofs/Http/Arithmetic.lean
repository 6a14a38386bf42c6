import ResultFlow.Proofs.Http.Attempts
import ResultFlow.Proofs.Options

/-!
# Arithmetic of attempts

The numbers of a client have a width: attempts, retries and powers of two have 32 bits, and the
seconds of a pause have 64. An operation whose result does not fit is a panic. The limit that is
reported, one more than the retries, is computed only for a report that is shown.

1. The pauses are those after the attempts in order (`Attempting.pauses_eq`), and so do not shrink.
2. Where the limit and the pauses fit, attempts do not panic (`Attempting.outcome_ne_panic`).
3. Where the limit does not fit and is shown, they panic, and do so in the first attempt
   (`Attempting.panics_of_shown`).
4. Main statement: for the settings that options lead to, the arithmetic fits unless the number of
   retries is the greatest of 32 bits and a report with the limit is shown.
-/

namespace ResultFlow

theorem powWord_mono {k l : Nat} (h : k ≤ l) : powWord k ≤ powWord l :=
  Nat.le_min.mpr
    ⟨Nat.le_trans (Nat.min_le_left ..) (Nat.pow_le_pow_right (by decide) h), powWord_le k⟩

namespace Http

theorem Outcome.ofExcept_ne_panic {α : Type} (x : Except Error α) (p : Panic) :
    ofExcept x ≠ .panic p := by
  cases x <;> nofun

namespace Client

variable {τ : Type} {c : Client τ} {t : Transport τ} {r : Request} {authorized : Bool}
  {made retries : Nat} {earlier : Option String} {s : τ} {d : Done τ Response}

/-! ## Pauses -/

/-- A repetition adds its pause. -/
theorem pauses_after (c : Client τ) (r : Request) (made number : Nat) (answer : Answer)
    (pause : Duration) (d : Done τ Response) :
    (d.after (c.tried r made :: c.between r number answer pause)).pauses = pause :: d.pauses := rfl

/-- The pauses are those after the attempts in order. -/
theorem Attempting.pauses_eq (h : c.Attempting t r authorized made earlier s retries d) :
    ∃ n ≤ retries, d.pauses = (List.range' (made + 1) n).map c.pause := by
  induction h with
  | uncounted | denied | unreported | last | unwarned | unpaused => exact ⟨0, Nat.zero_le _, rfl⟩
  | again h hr hl hp rest ih =>
    obtain ⟨n, hn, hpauses⟩ := ih
    obtain rfl := pause_of_pause? hp
    refine ⟨n + 1, Nat.succ_le_succ hn, ?_⟩
    rw [pauses_after, hpauses, List.range'_succ, List.map_cons]

/-- A pause is not shorter than those before it. -/
theorem pause_mono {k l : Nat} (h : k ≤ l) : (c.pause k).nanos ≤ (c.pause l).nanos :=
  Nat.mul_le_mul_left _ (powWord_mono (Nat.sub_le_sub_right h 1))

/-- Pauses in order do not shrink. -/
theorem pairwise_pauses (c : Client τ) (number n : Nat) :
    ((List.range' number n).map c.pause).Pairwise fun a b => a.nanos ≤ b.nanos := by
  rw [List.pairwise_map]
  exact List.pairwise_le_range'.imp pause_mono

/-! ## Panics -/

/-- Where the limit and the pauses fit, attempts do not panic, unless there are too many to count. -/
theorem Attempting.outcome_ne_panic (h : c.Attempting t r authorized made earlier s retries d)
    (hdebug : c.LimitFits .debug) (hwarn : c.LimitFits .warn)
    (hp : c.settings.retryDelay.nanos * maxWord < Duration.limit) :
    made + d.pauses.length < maxWord → ∀ p, d.outcome ≠ .panic p := by
  induction h with
  | uncounted hm =>
    intro hfew
    exact absurd hm (Nat.not_le.mpr (Nat.lt_of_le_of_lt (Nat.le_add_right ..) hfew))
  | denied => exact fun _ => nofun
  | unreported ha hl => exact absurd hdebug hl
  | last => exact fun _ => Outcome.ofExcept_ne_panic _
  | unwarned h hr hl => exact absurd hwarn hl
  | unpaused h hr hl hpause =>
    rw [pause?_of_fits hp] at hpause
    cases hpause
  | again h hr hl hpause rest ih =>
    intro hfew
    rw [pauses_after, List.length_cons] at hfew
    exact ih (by omega)

/-- The first attempt of a request shows the limit: in its own report, or in that of its repetition. -/
def ShowsLimit (c : Client τ) (t : Transport τ) (sent : Request) (s : τ) : Prop :=
  c.shows .debug = true ∨ (c.shows .warn = true ∧ (t.send (c.complete sent) s).1.Transient)

/-- A limit that does not fit and is shown ends the first attempt in a panic. -/
theorem Attempting.panics_of_shown (h : c.Attempting t r authorized made earlier s retries d)
    (hretries : retries ≠ 0) (hmax : maxWord ≤ c.settings.maxRetries) {sent : Request} {s' : τ}
    (ha : (c.authorize r authorized).run s = ⟨.ok sent, s', []⟩) (hs : c.ShowsLimit t sent s') :
    d.outcome = .panic .addition ∧ d.pauses = [] := by
  have hover : ∀ {level : Log.Level}, c.shows level = true → ¬ c.LimitFits level :=
    fun hs hl => Nat.not_lt.mpr hmax (hl hs)
  -- an attempt that is made has reported itself, so only the report of its repetition is left
  have htransient : ∀ {answer : Answer} {s₁ : τ}, c.Answered t r authorized made s answer s₁ →
      c.shows .warn = true ∧ answer.Transient := by
    rintro answer s₁ ⟨-, hl, sent', s₂, ha', hsend⟩
    rw [ha] at ha'
    cases ha'
    have hlate := hs.resolve_left fun hs => hover hs hl
    rw [hsend] at hlate
    exact hlate
  cases h with
  | uncounted => exact ⟨rfl, rfl⟩
  | denied h =>
    rw [ha] at h
    cases h
  | unreported => exact ⟨rfl, rfl⟩
  | last h hr =>
    exact absurd (htransient h).2 (retryReason?_eq_none_iff.mp (hr.resolve_left hretries))
  | unwarned => exact ⟨rfl, rfl⟩
  | unpaused h hr hl | again h hr hl => exact absurd hl (hover (htransient h).1)

/-- Attempts that are not too many to count panic only so. -/
theorem Attempting.shown_of_panic (h : c.Attempting t r authorized made earlier s retries d)
    (hp : c.settings.retryDelay.nanos * maxWord < Duration.limit)
    (hfew : made + d.pauses.length < maxWord) {p : Panic} (hpanic : d.outcome = .panic p) :
    maxWord ≤ c.settings.maxRetries ∧ ∃ sent s',
      (c.authorize r authorized).run s = ⟨.ok sent, s', []⟩ ∧ c.ShowsLimit t sent s' := by
  have hover : ∀ {level : Log.Level}, ¬ c.LimitFits level →
      c.shows level = true ∧ maxWord ≤ c.settings.maxRetries :=
    fun hl => (Classical.not_imp.mp hl).imp_right Nat.le_of_not_lt
  cases h with
  | uncounted hm => exact absurd hm (Nat.not_le.mpr (Nat.lt_of_le_of_lt (Nat.le_add_right ..) hfew))
  | denied => cases hpanic
  | @unreported _ _ _ _ s' sent ha hl => exact ⟨(hover hl).2, sent, s', ha, .inl (hover hl).1⟩
  | last => exact absurd hpanic (Outcome.ofExcept_ne_panic _ p)
  | unwarned h hr hl =>
    obtain ⟨-, -, sent, s₁, ha, hsend⟩ := h
    refine ⟨(hover hl).2, sent, s₁, ha, .inr ⟨(hover hl).1, ?_⟩⟩
    rw [hsend]
    exact transient_of_retryReason? hr
  | unpaused h hr hl hpause =>
    rw [pause?_of_fits hp] at hpause
    cases hpause
  | again h hr hl hpause rest =>
    rw [pauses_after, List.length_cons] at hfew
    exact absurd hpanic (rest.outcome_ne_panic h.2.1 hl hp (by omega) p)

/-! ## Settings from options -/

/-- The first pause fits, however often it is doubled. -/
theorem retryDelay_fits (options : List (String × String)) :
    (Settings.ofOptions options).http.retryDelay.nanos * maxWord < Duration.limit := by
  obtain ⟨connect, read, n, -, he⟩ := Settings.http_of_options options
  rw [he]
  show (Duration.ofMillis 1500).nanos * maxWord < Duration.limit
  decide

theorem maxRetries_le (options : List (String × String)) :
    (Settings.ofOptions options).http.maxRetries ≤ maxWord := by
  obtain ⟨connect, read, n, hn, he⟩ := Settings.http_of_options options
  rw [he]
  exact hn

/-- **Arithmetic.** For the settings that options lead to, and a number of attempts that has 32 bits,
attempts panic exactly if the retries take all 32 bits, there is an authorization header for the first
attempt if it is to carry one, and a report with the limit is shown in it. The panic is then that of
the limit, before any pause. The pauses are those after the attempts in order, and they do not shrink.
-/
theorem arithmetic_fits_iff (options : List (String × String)) (provider : Provider τ)
    (shows : Log.Level → Bool) (t : Transport τ) (r : Request) (authorized : Bool) (s : τ) :
    let c : Client τ := ⟨(Settings.ofOptions options).http, provider, shows⟩
    let d := (if authorized then c.execute t r else c.executePlain t r).run s
    d.pauses.length + 1 ≤ maxWord →
      ((∃ p, d.outcome = .panic p) ↔ c.settings.maxRetries = maxWord ∧ ∃ sent s',
        (c.authorize r authorized).run s = ⟨.ok sent, s', []⟩ ∧ c.ShowsLimit t sent s') ∧
      (∀ p, d.outcome = .panic p → p = .addition ∧ d.pauses = []) ∧
      d.pauses = (List.range' 1 d.pauses.length).map c.pause ∧
      d.pauses.Pairwise fun a b => a.nanos ≤ b.nanos := by
  intro c d hfew
  have hmax : c.settings.maxRetries ≤ maxWord := maxRetries_le options
  have hd : c.Attempting t r authorized 0 none s c.settings.maxRetries d := by
    cases authorized <;> exact attempts_attempting ..
  have hshown (p : Panic) (hp : d.outcome = .panic p) :=
    hd.shown_of_panic (retryDelay_fits options) ((Nat.zero_add _).symm ▸ hfew) hp
  have hpanics {sent : Request} {s' : τ} (heq : c.settings.maxRetries = maxWord)
      (ha : (c.authorize r authorized).run s = ⟨.ok sent, s', []⟩) (hs : c.ShowsLimit t sent s') :
      d.outcome = .panic .addition ∧ d.pauses = [] :=
    hd.panics_of_shown (by rw [heq]; decide) (Nat.le_of_eq heq.symm) ha hs
  obtain ⟨n, -, hn⟩ := hd.pauses_eq
  have hlength : d.pauses.length = n := by
    rw [hn, List.length_map, List.length_range']
  refine ⟨⟨?_, ?_⟩, ?_, ?_, ?_⟩
  · rintro ⟨p, hp⟩
    obtain ⟨hle, hs⟩ := hshown p hp
    exact ⟨Nat.le_antisymm hmax hle, hs⟩
  · rintro ⟨heq, sent, s', ha, hs⟩
    exact ⟨_, (hpanics heq ha hs).1⟩
  · intro p hp
    obtain ⟨hle, sent, s', ha, hs⟩ := hshown p hp
    obtain ⟨hout, hpauses⟩ := hpanics (Nat.le_antisymm hmax hle) ha hs
    rw [hout] at hp
    cases hp
    exact ⟨rfl, hpauses⟩
  · rw [hlength]
    exact hn
  · rw [hn]
    exact pairwise_pauses ..

/-- With two repetitions allowed, a busy server, silence and a success fit and take two pauses. -/
theorem arithmetic_fits_twice :
    let c : Client Nat :=
      ⟨(Settings.ofOptions [("athena.http.max_retries", "2")]).http, .bearer "token", fun _ => true⟩
    let r : Request := { method := "GET", url := ⟨"http", some "store", "/", none, none⟩ }
    let t : Transport Nat := ⟨fun _ n => (if n = 0 then .ok ⟨503, [], {}⟩ else
      if n = 1 then .error .timedOut else .ok ⟨200, [], {}⟩, n + 1)⟩
    let d := (c.execute t r).run 0
    c.settings.maxRetries = 2 ∧ d.state = 3 ∧ d.pauses.length + 1 ≤ maxWord ∧
      d.pauses = [.ofMillis 1500, .ofMillis 3000] ∧ ∀ p, d.outcome ≠ .panic p := by
  intro c r t d
  have hmax : c.settings.maxRetries = 2 := by decide +kernel
  have hstate : d.state = 3 := by decide +kernel
  have hpauses : d.pauses = [.ofMillis 1500, .ofMillis 3000] := by decide +kernel
  have hfew : d.pauses.length + 1 ≤ maxWord := by
    rw [hpauses]
    decide
  refine ⟨hmax, hstate, hfew, hpauses, fun p hp => ?_⟩
  have hfits := arithmetic_fits_iff [("athena.http.max_retries", "2")] (.bearer "token")
    (fun _ => true) t r true 0
  dsimp only at hfits
  rw [if_pos rfl] at hfits
  dsimp only [d, c] at hfew hp hmax
  have hword := ((hfits hfew).1.mp ⟨p, hp⟩).1
  rw [hmax] at hword
  cases hword

/-- The greatest number of retries is accepted, and the first attempt panics if its report is shown. -/
theorem limit_overflows :
    let c : Client Nat := ⟨(Settings.ofOptions [("athena.http.max_retries", "4294967295")]).http,
      .bearer "token", fun _ => true⟩
    let r : Request := { method := "GET", url := ⟨"http", some "store", "/", none, none⟩ }
    let t : Transport Nat := ⟨fun _ n => (.ok ⟨400, [], {}⟩, n + 1)⟩
    let d := (c.execute t r).run 0
    (({} : Settings).verdict "athena.http.max_retries" "4294967295").toBool = true ∧
      c.settings.maxRetries = maxWord ∧ d.outcome = .panic .addition ∧ d.state = 0 := by
  decide +kernel

end Client

end Http

end ResultFlow
