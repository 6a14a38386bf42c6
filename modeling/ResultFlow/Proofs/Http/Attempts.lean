import ResultFlow.Proofs.Http.Ways

/-!
# Attempts

A request that is sent up to its last attempt, against answers in any fixed order. The attempts end
with the first answer that is not worth a repetition, or when no repetition is left
(`attempts_exactly`).

1. `Repeats` says how many repetitions the answers ask for; there is exactly one such number
   (`Repeats.unique`).
2. `Client.carried` is the request as it goes out: the authorization header, and the headers that
   every request has.
3. `Client.Attempting.script` is the whole loop: by induction on its way, what it does and comes to is
   that of the number of repetitions it makes, unless it panics.
4. The outcome is that of the last answer (`conclude_eq_ok_iff` and its companions).
-/

namespace ResultFlow

theorem powWord_le (k : Nat) : powWord k ≤ maxWord := Nat.min_le_right ..

namespace Http

namespace Outcome

variable {α : Type} {x : Except Error α}

theorem ofExcept_eq_ok_iff {a : α} : ofExcept x = .ok a ↔ x = .ok a := by
  cases x <;> simp [ofExcept]

theorem ofExcept_eq_error_iff {e : Error} : ofExcept x = .error e ↔ x = .error e := by
  cases x <;> simp [ofExcept]

end Outcome

/-! ## Answers in a fixed order -/

/-- The transport that gives answers in a fixed order, and keeps the requests that it was sent. -/
def Transport.script (answers : Nat → Answer) : Transport (List Request) where
  send r sent := (answers sent.length, sent ++ [r])

/-- A provider that gives a value for each of the requests in turn. -/
structure Provider.Gives (p : Provider (List Request)) (value : Nat → String) : Prop where
  header : ∀ sent, p.header sent = (.ok (value sent.length), sent)
  valid : ∀ j, isHeaderValue (value j) = true

/-- An answer that is worth a repetition: a status that asks for patience, a connection that was
refused, or an answer that did not come in time. -/
def Answer.Transient : Answer → Prop
  | .ok r => r.status = 429 ∨ r.status = 502 ∨ r.status = 503 ∨ r.status = 504
  | .error f => f = .refused ∨ f = .timedOut

/-- Of at most `retries` repetitions the answers ask for `n`: those before answer `n` are worth one,
and it is not, or no repetition is left. -/
structure Repeats (retries : Nat) (answers : Nat → Answer) (n : Nat) : Prop where
  le : n ≤ retries
  before : ∀ j < n, (answers j).Transient
  last : n < retries → ¬ (answers n).Transient

theorem Repeats.unique {retries m n : Nat} {answers : Nat → Answer}
    (hm : Repeats retries answers m) (hn : Repeats retries answers n) : m = n := by
  rcases Nat.lt_trichotomy m n with h | h | h
  · exact absurd (hn.before m h) (hm.last (by have := hn.le; omega))
  · exact h
  · exact absurd (hm.before n h) (hn.last (by have := hm.le; omega))

theorem Repeats.zero {retries : Nat} {answers : Nat → Answer}
    (h : 0 < retries → ¬ (answers 0).Transient) : Repeats retries answers 0 where
  le := Nat.zero_le _
  before := by
    intro j hj
    omega
  last := h

theorem Repeats.succ {retries n : Nat} {answers : Nat → Answer} (h0 : (answers 0).Transient)
    (h : Repeats retries (fun j => answers (j + 1)) n) : Repeats (retries + 1) answers (n + 1) where
  le := Nat.succ_le_succ h.le
  before := by
    intro j hj
    cases j with
    | zero => exact h0
    | succ j => exact h.before j (by omega)
  last := by
    intro hn
    exact h.last (by omega)

theorem patientStatus?_eq_none_iff {status : Nat} :
    patientStatus? status = none ↔
      ¬ (status = 429 ∨ status = 502 ∨ status = 503 ∨ status = 504) := by
  unfold patientStatus?
  split <;> simp_all

/-- A repetition has a reason exactly when the answer is worth one. -/
theorem retryReason?_eq_none_iff {url : Url} {a : Answer} :
    retryReason? url a = none ↔ ¬ a.Transient := by
  cases a with
  | ok r =>
    show Option.map _ _ = none ↔ _
    rw [Option.map_eq_none_iff, patientStatus?_eq_none_iff]
    rfl
  | error f => cases f <;> simp [retryReason?, Fault.isTransient, Answer.Transient]

theorem transient_of_retryReason? {url : Url} {a : Answer} {reason : String}
    (h : retryReason? url a = some reason) : a.Transient := by
  refine Classical.byContradiction fun ha => ?_
  rw [retryReason?_eq_none_iff.mpr ha] at h
  cases h

/-! ## What is sent -/

/-- Whether a token can be the value of a header. -/
def UsableToken (token : String) : Prop := token ≠ "" ∧ isHeaderValue token = true

theorem isHeaderValue_append (s t : String) :
    isHeaderValue (s ++ t) = (isHeaderValue s && isHeaderValue t) := by
  unfold isHeaderValue
  rw [String.toList_append, List.all_append]

theorem isHeaderValue_bearer (token : String) :
    isHeaderValue ("Bearer " ++ token) = isHeaderValue token := by
  rw [isHeaderValue_append, Bool.and_eq_right_iff_imp]
  intro
  decide

/-- A token that can be the value of a header is given to every request. -/
theorem UsableToken.gives {token : String} (h : UsableToken token) :
    (Provider.bearer token).Gives fun _ => "Bearer " ++ token where
  header _ := congrArg (·, _) (if_neg h.1)
  valid _ := (isHeaderValue_bearer token).trans h.2

/-- The authorization header of a request that is to carry one. -/
def credentials (authorized : Bool) (value : String) : List Header :=
  if authorized then [("authorization", value)] else []

/-- The request with its authorization header. -/
def Request.signed (r : Request) (authorized : Bool) (value : String) : Request :=
  { r with headers := r.headers ++ credentials authorized value }

namespace Client

variable {τ : Type} {c : Client τ} {r : Request} {authorized : Bool}

/-- The headers that a client gives to every request that has none of their names. -/
def standing (c : Client τ) (r : Request) : List Header :=
  [("accept", "*/*"), ("user-agent", c.settings.userAgent)] ++
    (r.body.map fun body => ("content-length", toString body.utf8ByteSize)).toList

/-- Those of them that a request does not have. -/
def missing (c : Client τ) (r : Request) : List Header :=
  (c.standing r).filter fun h => !r.headers.any (·.1 = h.1)

/-- The request as it goes out: with its authorization header, and with the headers that it does not
have. -/
def carried (c : Client τ) (r : Request) (authorized : Bool) (value : String) : Request :=
  { r with headers := r.headers ++ credentials authorized value ++ c.missing r }

/-- A request that is to carry no authorization header is left as it is. -/
theorem authorize_plain (c : Client τ) (r : Request) (s : τ) :
    (c.authorize r false).run s = ⟨.ok r, s, []⟩ := rfl

theorem authorize_of_header {value : String} {s s' : τ}
    (hp : c.provider.header s = (.ok value, s')) (hv : isHeaderValue value = true) :
    (c.authorize r true).run s = ⟨.ok (r.signed true value), s', []⟩ := by
  have hvalue : c.authorization.run s = ⟨.ok value, s', []⟩ := by
    rw [authorization, Work.run_bind_of_ok (Work.run_step hp)]
    rfl
  rw [authorize, if_pos rfl, Work.run_bind_of_ok hvalue, if_pos hv]
  rfl

/-- A token that can be sent is given to every request. -/
theorem authorize_of_usable {token : String} (hc : c.provider = .bearer token)
    (ht : UsableToken token) (r : Request) (s : τ) :
    (c.authorize r true).run s = ⟨.ok (r.signed true ("Bearer " ++ token)), s, []⟩ := by
  have hheader : c.provider.header s = (.ok ("Bearer " ++ token), s) := by
    rw [hc]
    exact congrArg (·, s) (if_neg ht.1)
  exact authorize_of_header hheader ((isHeaderValue_bearer token).trans ht.2)

/-- With a token that cannot be the value of a header there is no authorization header. -/
theorem authorize_of_unusable {token : String} (hc : c.provider = .bearer token)
    (h : ¬ UsableToken token) (r : Request) (s : τ) :
    ∃ e, (c.authorize r true).run s = ⟨.error e, s, []⟩ := by
  have hheader : c.provider.header s = (bearer token, s) := by
    rw [hc]
    rfl
  unfold authorize
  rw [if_pos rfl]
  by_cases hempty : token = ""
  · rw [bearer, if_pos hempty] at hheader
    refine ⟨.emptyToken, Work.run_bind_of_error ?_ _⟩
    rw [authorization, Work.run_bind_of_ok (Work.run_step hheader)]
    rfl
  · rw [bearer, if_neg hempty] at hheader
    have hvalue : c.authorization.run s = ⟨.ok ("Bearer " ++ token), s, []⟩ := by
      rw [authorization, Work.run_bind_of_ok (Work.run_step hheader)]
      rfl
    have hinvalid : ¬ isHeaderValue ("Bearer " ++ token) = true := fun hv =>
      h ⟨hempty, (isHeaderValue_bearer token).symm.trans hv⟩
    rw [Work.run_bind_of_ok hvalue, if_neg hinvalid]
    exact ⟨_, rfl⟩

/-- With a working provider a request gets the value that is meant for it. -/
theorem authorize_of_gives {c : Client (List Request)} {value : Nat → String}
    (h : authorized = true → c.provider.Gives value) (sent : List Request) :
    (c.authorize r authorized).run sent =
      ⟨.ok (r.signed authorized (value sent.length)), sent, []⟩ := by
  cases authorized with
  | false =>
    rw [authorize_plain, Request.signed, credentials, if_neg Bool.false_ne_true, List.append_nil]
  | true => exact authorize_of_header ((h rfl).header sent) ((h rfl).valid _)

/-- No standing header is one of the credentials. -/
theorem name_of_mem_standing {h : Header} (hh : h ∈ c.standing r) : h.1 ≠ "authorization" := by
  unfold standing at hh
  cases hb : r.body with
  | none =>
    rw [hb] at hh
    simp only [Option.map_none, Option.toList_none, List.append_nil, List.mem_cons,
      List.not_mem_nil, or_false] at hh
    rcases hh with rfl | rfl <;> simp
  | some body =>
    rw [hb] at hh
    simp only [Option.map_some, Option.toList_some, List.cons_append, List.nil_append,
      List.mem_cons, List.not_mem_nil, or_false] at hh
    rcases hh with rfl | rfl | rfl <;> simp

theorem name_of_mem_missing {h : Header} (hh : h ∈ c.missing r) : h.1 ≠ "authorization" :=
  name_of_mem_standing (List.mem_filter.mp hh).1

theorem complete_eq (c : Client τ) (r : Request) :
    c.complete r = { r with headers := r.headers ++ c.missing r } := by
  unfold complete missing standing
  cases r.body <;> cases ha : r.headers.any (·.1 = "accept") <;>
    cases hu : r.headers.any (·.1 = "user-agent") <;>
    cases hl : r.headers.any (·.1 = "content-length") <;>
    simp [withDefault, ha, hu, hl, -List.any_eq_true, -List.any_eq_false]

theorem complete_signed (c : Client τ) (r : Request) (authorized : Bool) (value : String) :
    c.complete (r.signed authorized value) = c.carried r authorized value := by
  have hmissing : c.missing (r.signed authorized value) = c.missing r := by
    refine List.filter_congr fun h hh => ?_
    have hname := (name_of_mem_standing hh).symm
    have hown : (credentials authorized value).any (·.1 = h.1) = false := by
      cases authorized <;> simp [credentials, hname]
    rw [Request.signed, List.any_append, hown, Bool.or_false]
  rw [complete_eq, hmissing]
  rfl

/-! ## The loop -/

/-- The pause after an attempt. -/
def pause (c : Client τ) (attempt : Nat) : Duration :=
  c.settings.retryDelay.scale (powWord (attempt - 1))

theorem pause_of_pause? {attempt : Nat} {d : Duration} (h : c.pause? attempt = some d) :
    d = c.pause attempt := by
  unfold pause? Duration.scale? at h
  split at h
  · exact (Option.some.inj h).symm
  · cases h

/-- Whether the numbers of a client keep to their widths: the retries and one more, and the first
pause as often as a word counts. -/
structure Fits (c : Client τ) : Prop where
  retries : c.settings.maxRetries < maxWord
  pause : c.settings.retryDelay.nanos * maxWord < Duration.limit

theorem Fits.limitFits (h : c.Fits) (level : Log.Level) : c.LimitFits level := fun _ => h.retries

theorem pause?_of_fits (h : c.settings.retryDelay.nanos * maxWord < Duration.limit)
    (attempt : Nat) : c.pause? attempt = some (c.pause attempt) :=
  if_pos (Nat.lt_of_le_of_lt (Nat.mul_le_mul_left _ (powWord_le _)) h)

/-- What is done in attempts after `made` ones, of which `n` are repeated. -/
def course (c : Client τ) (r : Request) (answers : Nat → Answer) (made n : Nat) : List Act :=
  (List.range n).flatMap (fun j => c.tried r (made + j) ::
    c.between r (made + j + 1) (answers j) (c.pause (made + j + 1))) ++
  [c.tried r (made + n)]

/-- The reason of the last of `n` repetitions. -/
def lastReason (url : Url) (earlier : Option String) (answers : Nat → Answer) : Nat → Option String
  | 0 => earlier
  | n + 1 => retryReason? url (answers n)

theorem course_succ (answers : Nat → Answer) (made n : Nat) :
    c.course r answers made (n + 1) =
      c.tried r made :: c.between r (made + 1) (answers 0) (c.pause (made + 1)) ++
      c.course r (fun j => answers (j + 1)) (made + 1) n := by
  unfold course
  rw [List.range_succ_eq_map, List.flatMap_cons, List.flatMap_map, List.append_assoc]
  simp only [Nat.add_zero, Nat.add_assoc, Nat.add_comm 1]

theorem lastReason_succ (url : Url) (earlier reason : Option String) (answers : Nat → Answer)
    (h : retryReason? url (answers 0) = reason) (n : Nat) :
    lastReason url earlier answers (n + 1) =
      lastReason url reason (fun j => answers (j + 1)) n := by
  cases n with
  | zero => exact h
  | succ n => rfl

theorem pauses_course (c : Client τ) (r : Request) (answers : Nat → Answer) (made n : Nat) :
    (c.course r answers made n).filterMap Act.delay? =
      (List.range n).map fun j => c.pause (made + j + 1) := by
  induction n generalizing answers made with
  | zero => rfl
  | succ n ih =>
    have hfirst : (c.tried r made ::
        c.between r (made + 1) (answers 0) (c.pause (made + 1))).filterMap Act.delay? =
          [c.pause (made + 1)] := rfl
    rw [course_succ, List.filterMap_append, hfirst, ih, List.range_succ_eq_map, List.map_cons,
      List.map_map]
    simp [Function.comp_def, Nat.add_assoc, Nat.add_comm 1]

section Script

variable {c : Client (List Request)} {value : Nat → String}

/-- The requests that go out after others, one for each of `n` attempts. -/
def carriedFrom (c : Client (List Request)) (r : Request) (authorized : Bool) (value : Nat → String)
    (sent : List Request) (n : Nat) : List Request :=
  sent ++ (List.range n).map fun j => c.carried r authorized (value (sent.length + j))

theorem carriedFrom_succ (sent : List Request) (n : Nat) :
    c.carriedFrom r authorized value (c.carriedFrom r authorized value sent 1) n =
      c.carriedFrom r authorized value sent (n + 1) := by
  unfold carriedFrom
  rw [List.append_assoc, List.range_succ_eq_map (n := n), List.map_cons, List.map_map]
  simp [Function.comp_def, Nat.add_assoc, Nat.add_comm 1]

/-- An attempt that is made against answers in a fixed order gets the next one. -/
theorem Answered.script {answers : Nat → Answer} {made : Nat} {answer : Answer}
    {sent sent' : List Request} (hp : authorized = true → c.provider.Gives value)
    (h : c.Answered (.script answers) r authorized made sent answer sent') :
    answer = answers sent.length ∧ sent' = c.carriedFrom r authorized value sent 1 := by
  obtain ⟨-, -, signed, sent₁, ha, hs⟩ := h
  rw [authorize_of_gives hp] at ha
  cases ha
  rw [complete_signed] at hs
  cases hs
  exact ⟨rfl, rfl⟩

/-- **The loop.** Attempts make the repetitions that the answers ask for, send the same request each
time but for the value of its authorization header, and come to what the last answer comes to; or
they panic, and some number of the client is out of its width. -/
theorem Attempting.script (hp : authorized = true → c.provider.Gives value) {answers : Nat → Answer}
    {made retries : Nat} {earlier : Option String} {sent : List Request}
    {d : Done (List Request) Response}
    (h : c.Attempting (.script answers) r authorized made earlier sent retries d)
    (hmade : made + retries ≤ c.settings.maxRetries) :
    let heard := fun j => answers (sent.length + j)
    (∃ p, d.outcome = .panic p ∧ ¬ c.Fits) ∨
      ∃ n, Repeats retries heard n ∧
        d = ⟨.ofExcept (conclude r.url (made + n + 1) (lastReason r.url earlier heard n) (heard n)),
          c.carriedFrom r authorized value sent (n + 1), c.course r heard made n⟩ := by
  -- the induction is on the way of the attempts; one more attempt shifts the answers by one
  induction h with
  | uncounted hm =>
    refine .inl ⟨_, rfl, fun hf => ?_⟩
    have := hf.retries
    omega
  | denied ha =>
    rw [authorize_of_gives hp] at ha
    cases ha
  | unreported ha hl => exact .inl ⟨_, rfl, fun hf => hl (hf.limitFits _)⟩
  | last h hr =>
    obtain ⟨rfl, rfl⟩ := h.script hp
    refine .inr ⟨0, .zero fun hpos => ?_, rfl⟩
    exact retryReason?_eq_none_iff.mp (hr.resolve_left (Nat.ne_of_gt hpos))
  | unwarned h hr hl => exact .inl ⟨_, rfl, fun hf => hl (hf.limitFits _)⟩
  | unpaused h hr hl hpause =>
    refine .inl ⟨_, rfl, fun hf => ?_⟩
    rw [pause?_of_fits hf.pause] at hpause
    cases hpause
  | @again made retries earlier sent sent' answer reason pause d h hr hl hpause rest ih =>
    obtain ⟨rfl, rfl⟩ := h.script hp
    obtain rfl := pause_of_pause? hpause
    have hlen : (c.carriedFrom r authorized value sent 1).length = sent.length + 1 := by
      simp [carriedFrom]
    have hshift : (fun j => answers (sent.length + 1 + j)) =
        fun j => answers (sent.length + (j + 1)) := by
      funext j
      rw [Nat.add_assoc, Nat.add_comm 1]
    rcases ih (by omega) with ⟨p, hd, hf⟩ | ⟨n, hn, hd⟩
    · exact .inl ⟨p, hd, hf⟩
    · rw [hlen, hshift] at hn hd
      refine .inr ⟨n + 1, hn.succ (transient_of_retryReason? hr), ?_⟩
      rw [hd, Done.after, carriedFrom_succ, course_succ, lastReason_succ r.url _ _ _ hr,
        Nat.add_right_comm made 1 n]
      rfl

end Script

/-! ## Outcomes -/

section Outcomes

variable {url : Url} {number : Nat} {earlier : Option String} {a : Answer}

theorem conclude_of_refusal {response : Response} (h : response.isSuccess = false) :
    conclude url number earlier (.ok response) =
      .error (.http response.status (response.text.toOption.getD "")) := by
  refine (if_neg (Bool.eq_false_iff.mp h)).trans ?_
  cases response.text <;> rfl

/-- The last attempt succeeds, is refused with a status, or meets a fault. -/
theorem conclude_cases (url : Url) (number : Nat) (earlier : Option String) (a : Answer) :
    (∃ x, a = .ok x ∧ x.isSuccess = true ∧ conclude url number earlier a = .ok x) ∨
    (∃ x, a = .ok x ∧ x.isSuccess = false ∧
      conclude url number earlier a = .error (.http x.status (x.text.toOption.getD ""))) ∨
    (∃ f reason, a = .error f ∧ conclude url number earlier a = .error (.service reason)) := by
  cases a with
  | error f => exact .inr (.inr ⟨f, _, rfl, rfl⟩)
  | ok x =>
    cases hs : x.isSuccess with
    | true => exact .inl ⟨x, rfl, hs, if_pos hs⟩
    | false => exact .inr (.inl ⟨x, rfl, hs, conclude_of_refusal hs⟩)

theorem conclude_eq_ok_iff {x : Response} :
    conclude url number earlier a = .ok x ↔ a = .ok x ∧ x.isSuccess = true := by
  rcases conclude_cases url number earlier a with ⟨y, rfl, hs, he⟩ | ⟨y, rfl, hs, he⟩ |
    ⟨f, reason, rfl, he⟩ <;> rw [he] <;> grind

/-- A failure by its status keeps the status and the body of the answer. -/
theorem conclude_eq_http_iff {status : Nat} {body : String} :
    conclude url number earlier a = .error (.http status body) ↔
      ∃ x, a = .ok x ∧ x.isSuccess = false ∧
        status = x.status ∧ body = x.text.toOption.getD "" := by
  rcases conclude_cases url number earlier a with ⟨y, rfl, hs, he⟩ | ⟨y, rfl, hs, he⟩ |
    ⟨f, reason, rfl, he⟩ <;> rw [he] <;> grind

theorem conclude_eq_service_iff :
    (∃ reason, conclude url number earlier a = .error (.service reason)) ↔
      ∃ fault, a = .error fault := by
  rcases conclude_cases url number earlier a with ⟨y, rfl, hs, he⟩ | ⟨y, rfl, hs, he⟩ |
    ⟨f, reason, rfl, he⟩ <;> rw [he] <;> grind

end Outcomes

/-- **Attempts.** A request whose client keeps to the widths of its numbers, and has a working provider
if the request is to carry a header of it, is sent once and again as often as the answers ask for it
and repetitions are allowed: up to the first answer that is a success or not worth a repetition. Each
time the same request goes out, with an authorization header exactly if it is to carry one. The pauses
double up to a limit, one after each attempt but the last, and the outcome is that of the last answer.
-/
theorem attempts_exactly (c : Client (List Request)) (hf : c.Fits) (r : Request) (authorized : Bool)
    (value : Nat → String) (hp : authorized = true → c.provider.Gives value)
    (answers : Nat → Answer) :
    let d := (if authorized then c.execute (.script answers) r
      else c.executePlain (.script answers) r).run []
    ∃ n, Repeats c.settings.maxRetries answers n ∧
      d.state = (List.range (n + 1)).map (fun j => c.carried r authorized (value j)) ∧
      d.trace = c.course r answers 0 n ∧
      d.pauses = (List.range n).map
        (fun j => ⟨c.settings.retryDelay.nanos * min (Nat.pow 2 j) 0xFFFFFFFF⟩) ∧
      (∀ response, d.outcome = .ok response ↔
        answers n = .ok response ∧ response.isSuccess = true) ∧
      (∀ status body, d.outcome = .error (.http status body) ↔
        ∃ response, answers n = .ok response ∧ response.isSuccess = false ∧
          status = response.status ∧ body = response.text.toOption.getD "") ∧
      ((∃ reason, d.outcome = .error (.service reason)) ↔ ∃ fault, answers n = .error fault) := by
  intro d
  have hd : c.Attempting (.script answers) r authorized 0 none [] c.settings.maxRetries d := by
    cases authorized <;> exact attempts_attempting ..
  have hheard : (fun j => answers (([] : List Request).length + j)) = answers := by
    funext j
    rw [List.length_nil, Nat.zero_add]
  rcases hd.script hp (Nat.le_of_eq (Nat.zero_add _)) with ⟨p, -, hn⟩ | ⟨n, hn, he⟩
  · exact absurd hf hn
  rw [hheard] at hn he
  rw [he]
  refine ⟨n, hn, ?_, rfl, ?_, ?_, ?_, ?_⟩
  · simp [carriedFrom]
  · refine (c.pauses_course r answers 0 n).trans (List.map_congr_left fun j _ => ?_)
    rw [Nat.zero_add]
    rfl
  · intro response
    exact Outcome.ofExcept_eq_ok_iff.trans conclude_eq_ok_iff
  · intro status body
    exact Outcome.ofExcept_eq_error_iff.trans conclude_eq_http_iff
  · exact (exists_congr fun _ => Outcome.ofExcept_eq_error_iff).trans conclude_eq_service_iff

/-- A busy server, then none in time, then the answer: three requests and two pauses. -/
theorem attempts_exactly_three :
    let c : Client (List Request) := ⟨{}, .bearer "token", fun _ => true⟩
    let r : Request := { method := "GET", url := ⟨"http", some "store", "/", none, none⟩ }
    let answers : Nat → Answer := fun j =>
      if j = 0 then .ok ⟨503, [], {}⟩ else if j = 1 then .error .timedOut else .ok ⟨200, [], {}⟩
    let d := (c.execute (.script answers) r).run []
    c.Fits ∧ c.provider.Gives (fun _ => "Bearer token") ∧
      d.state = List.replicate 3 (c.carried r true "Bearer token") ∧
      (c.carried r true "Bearer token").headers = [("authorization", "Bearer token"),
        ("accept", "*/*"), ("user-agent", "athena-results/0.1.0")] ∧
      d.pauses = [.ofMillis 1500, .ofMillis 3000] ∧ d.outcome = .ok ⟨200, [], {}⟩ := by
  intro c r answers d
  have hf : c.Fits := ⟨by decide, by decide⟩
  have htoken : UsableToken "token" := ⟨by decide, by decide⟩
  have hp : c.provider.Gives fun _ => "Bearer token" := htoken.gives
  obtain ⟨n, hn, hsent, -, hpauses, hok, -⟩ := attempts_exactly c hf r true _ (fun _ => hp) answers
  have htwo : Repeats c.settings.maxRetries answers 2 := by
    refine ⟨by decide, ?_, ?_⟩
    · intro j hj
      match j, hj with
      | 0, _ => exact .inr (.inr (.inl rfl))
      | 1, _ => exact .inr rfl
    · intro _ ht
      have ht : 200 = 429 ∨ 200 = 502 ∨ 200 = 503 ∨ 200 = 504 := ht
      omega
  obtain rfl := hn.unique htwo
  refine ⟨hf, hp, hsent, by decide, hpauses.trans ?_, (hok _).mpr ⟨rfl, rfl⟩⟩
  decide

end Client

end Http

end ResultFlow
