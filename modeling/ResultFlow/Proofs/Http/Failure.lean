import ResultFlow.Proofs.Http.Attempts

/-!
# Failures of requests

What a request that fails reports. A status that ends the attempts is reported with its body, the
ones of the last attempt. A fault that ends them is reported with the number of attempts, and with
the text of the failure that was repeated last: that of the attempt before the last one, if there is
one. Main statement: it is the text of the last fault exactly if there was one attempt, or the one
before it met a fault of the same wording.
-/

namespace ResultFlow.Http

/-- The text of what went wrong in an attempt: its status, or the wording of its fault. -/
def Answer.failureText (url : Url) : Answer → String
  | .ok r => "HTTP " ++ toString r.status
  | .error f => f.text url

/-- An answer that is worth a repetition is repeated because of what went wrong. -/
theorem retryReason?_of_transient {url : Url} {a : Answer} (h : a.Transient) :
    retryReason? url a = some (a.failureText url) := by
  cases a with
  | ok r =>
    have hs : patientStatus? r.status ≠ none := fun hn => patientStatus?_eq_none_iff.mp hn h
    obtain ⟨name, hname⟩ := Option.ne_none_iff_exists'.mp hs
    unfold retryReason?
    dsimp only
    rw [hname]
    rfl
  | error f =>
    have ht : f.isTransient = true := by
      rcases h with rfl | rfl <;> rfl
    exact if_pos ht

theorem head?_append_of_head? {s : String} {c : Char} (h : s.toList.head? = some c) (t : String) :
    (s ++ t).toList.head? = some c := by
  rw [String.toList_append, List.head?_append, h]
  rfl

/-- The wording of a fault begins with an e or a b. -/
theorem Fault.head?_text (f : Fault) (url : Url) :
    (f.text url).toList.head? = some 'e' ∨ (f.text url).toList.head? = some 'b' := by
  have hquoting (s : String) (h : s.toList.head? = some 'e') (u : Url) :
      (s ++ u.text ++ ")").toList.head? = some 'e' :=
    head?_append_of_head? (head?_append_of_head? h _) _
  cases f with
  | scheme u =>
    unfold Fault.text Request.builderError
    exact .inr (head?_append_of_head? (by decide) _)
  | redirected u => exact .inl (hquoting _ (by decide) u)
  | refused | timedOut | lost => exact .inl (hquoting _ (by decide) url)

/-- A fault is not worded like a status. -/
theorem Fault.text_ne_status (f : Fault) (url : Url) (status : Nat) :
    f.text url ≠ "HTTP " ++ toString status := by
  intro h
  have hstatus : (f.text url).toList.head? = some 'H' := by
    rw [h]
    exact head?_append_of_head? (by decide) _
  rcases f.head?_text url with hf | hf <;>
  · rw [hf] at hstatus
    cases hstatus

namespace Client

/-- The failure of a request after some attempts. -/
def failedAfter (number : Nat) (text : String) : Error :=
  .service ("HTTP request failed after " ++ toString number ++ " attempts: " ++ text)

theorem failedAfter_inj {number : Nat} {s t : String} :
    failedAfter number s = failedAfter number t ↔ s = t := by
  unfold failedAfter
  rw [Error.service.injEq, String.append_right_inj]

variable {heard : Nat → Answer} {n : Nat} {f : Fault}

/-- Repetitions leave the reason of the last one. -/
theorem lastReason_of_transient {url : Url} (hn : n ≠ 0) (ht : ∀ j < n, (heard j).Transient) :
    lastReason url none heard n = some ((heard (n - 1)).failureText url) := by
  obtain ⟨m, rfl⟩ := Nat.exists_eq_succ_of_ne_zero hn
  exact retryReason?_of_transient (ht m (Nat.lt_succ_self m))

/-- A fault that ends the attempts is reported under the failure of the attempt before the last, or
under its own if it is the only one. -/
theorem conclude_of_fault {url : Url} (ht : ∀ j < n, (heard j).Transient)
    (hf : heard n = .error f) :
    conclude url (n + 1) (lastReason url none heard n) (heard n) =
      .error (failedAfter (n + 1) ((heard (n - 1)).failureText url)) := by
  by_cases hn : n = 0
  · subst hn
    rw [hf]
    rfl
  · rw [lastReason_of_transient hn ht, hf]
    rfl

/-- The report is that of the last fault if there was one attempt, or the one before it met a fault
of the same wording. -/
theorem failureText_eq_iff {url : Url} (hf : heard n = .error f) :
    (heard (n - 1)).failureText url = f.text url ↔
      n = 0 ∨ ∃ g, heard (n - 1) = .error g ∧ g.text url = f.text url := by
  -- the only attempt is its own predecessor here, as `0 - 1 = 0`
  by_cases hn : n = 0
  · subst hn
    exact iff_of_true (congrArg (Answer.failureText url) hf) (.inl rfl)
  · rw [or_iff_right hn]
    cases hp : heard (n - 1) with
    | ok x =>
      refine iff_of_false (fun h => f.text_ne_status url x.status h.symm) ?_
      rintro ⟨g, hg, -⟩
      cases hg
    | error g =>
      refine ⟨fun h => ⟨g, rfl, h⟩, ?_⟩
      rintro ⟨k, hk, h⟩
      cases hk
      exact h

/-- **Failures.** A request that is to carry a token that cannot be sent is not attempted. A client
whose numbers leave their widths may panic. Any other request ends with the attempt after the
repetitions that the answers ask for. A status other than success is reported with the body that came
with it. A fault is reported with the number of attempts, and under the failure of the attempt before
the last; the report is that of the fault itself exactly if there was only one attempt, or the one
before the last met a fault of the same wording. -/
theorem failure_reported (settings : HttpSettings) (token : String) (shows : Log.Level → Bool)
    (r : Request) (authorized : Bool) (answers : Nat → Answer) :
    let c : Client (List Request) := ⟨settings, .bearer token, shows⟩
    let d := (if authorized then c.execute (.script answers) r
      else c.executePlain (.script answers) r).run []
    (∃ e, (c.authorize r authorized).run [] = ⟨.error e, [], []⟩ ∧ d = ⟨.error e, [], []⟩) ∨
      (¬ c.Fits ∧ ∃ p, d.outcome = .panic p) ∨
      ∃ n, Repeats settings.maxRetries answers n ∧
        d.state = List.replicate (n + 1) (c.carried r authorized ("Bearer " ++ token)) ∧
        (∀ x, answers n = .ok x → x.isSuccess = false →
          d.outcome = .error (.http x.status (x.text.toOption.getD ""))) ∧
        ∀ f, answers n = .error f →
          d.outcome = .error (failedAfter (n + 1) ((answers (n - 1)).failureText r.url)) ∧
          (d.outcome = .error (failedAfter (n + 1) (f.text r.url)) ↔
            n = 0 ∨ ∃ g, answers (n - 1) = .error g ∧ g.text r.url = f.text r.url) := by
  intro c d
  have hd : c.Attempting (.script answers) r authorized 0 none [] settings.maxRetries d := by
    cases authorized <;> exact attempts_attempting ..
  by_cases hc : authorized = true → UsableToken token
  · have hheard : (fun j => answers (([] : List Request).length + j)) = answers := by
      funext j
      rw [List.length_nil, Nat.zero_add]
    rcases hd.script (fun h => (hc h).gives) (Nat.le_of_eq (Nat.zero_add _)) with
      ⟨p, hp, hf⟩ | ⟨n, hn, he⟩
    · exact .inr (.inl ⟨hf, p, hp⟩)
    · rw [hheard, Nat.zero_add] at he
      rw [hheard] at hn
      rw [he]
      refine .inr (.inr ⟨n, hn, ?_, ?_, ?_⟩)
      · exact List.map_const'.trans (congrArg (List.replicate · _) List.length_range)
      · intro x hx hs
        refine Outcome.ofExcept_eq_error_iff.mpr ?_
        rw [hx]
        exact conclude_of_refusal hs
      · intro f hf
        have hout : conclude r.url (n + 1) (lastReason r.url none answers n) (answers n) =
            .error (failedAfter (n + 1) ((answers (n - 1)).failureText r.url)) :=
          conclude_of_fault hn.before hf
        refine ⟨Outcome.ofExcept_eq_error_iff.mpr hout, Outcome.ofExcept_eq_error_iff.trans ?_⟩
        rw [hout, Except.error.injEq, failedAfter_inj]
        exact failureText_eq_iff hf
  · obtain ⟨rfl, hu⟩ := Classical.not_imp.mp hc
    obtain ⟨e, he⟩ := authorize_of_unusable (c := c) rfl hu r []
    exact .inl ⟨e, he, hd.of_unauthorized (by decide) he⟩

/-- Two attempts that get no answer in time are reported as such. -/
theorem failure_reported_of_silence :
    let c : Client (List Request) := ⟨{ maxRetries := 1 }, .bearer "token", fun _ => true⟩
    let r : Request := { method := "GET", url := ⟨"http", some "store", "/", none, none⟩ }
    let d := (c.execute (.script fun _ => .error .timedOut) r).run []
    d.state.length = 2 ∧ d.outcome = .error (failedAfter 2 (Fault.timedOut.text r.url)) := by
  intro c r d
  have hf : c.Fits := ⟨by decide, by decide⟩
  have hone : Repeats c.settings.maxRetries (fun _ => .error .timedOut) 1 :=
    ⟨by decide, fun j _ => .inr rfl, fun h => absurd h (by decide)⟩
  rcases failure_reported { maxRetries := 1 } "token" (fun _ => true) r true
      fun _ => .error .timedOut with ⟨e, he, -⟩ | ⟨hn, -⟩ | ⟨n, hn, hsent, -, hfault⟩
  · cases he
  · exact absurd hf hn
  · obtain rfl := hn.unique hone
    rw [if_pos rfl] at hsent hfault
    have hlen := congrArg List.length hsent
    rw [List.length_replicate] at hlen
    dsimp only [d, c]
    exact ⟨hlen, (hfault .timedOut rfl).2.mpr (.inr ⟨.timedOut, rfl, rfl⟩)⟩

/-- A connection that is lost after a busy server is reported as the busy server. -/
theorem lost_reported_as_busy :
    let c : Client (List Request) := ⟨{}, .bearer "token", fun _ => true⟩
    let r : Request := { method := "GET", url := ⟨"http", some "store", "/", none, none⟩ }
    let answers : Nat → Answer := fun j => if j = 0 then .ok ⟨503, [], {}⟩ else .error .lost
    let d := (c.execute (.script answers) r).run []
    Repeats c.settings.maxRetries answers 1 ∧ answers 1 = .error .lost ∧
      d.outcome = .error (failedAfter 2 "HTTP 503") ∧
      d.outcome ≠ .error (failedAfter 2 (Fault.lost.text r.url)) := by
  intro c r answers d
  have hone : Repeats c.settings.maxRetries answers 1 := by
    refine ⟨by decide, fun j hj => ?_, fun _ => by rintro (h | h) <;> cases h⟩
    obtain rfl : j = 0 := by omega
    exact .inr (.inr (.inl rfl))
  have hout : d.outcome = .error (failedAfter 2 "HTTP 503") := by decide +kernel
  refine ⟨hone, rfl, hout, ?_⟩
  rw [hout, Ne, Outcome.error.injEq, failedAfter_inj]
  decide +kernel

end Client

end ResultFlow.Http
