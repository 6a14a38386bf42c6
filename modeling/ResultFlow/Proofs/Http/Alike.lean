import ResultFlow.Http.Redirect
import ResultFlow.Proofs.Http.Attempts

/-!
# Work with two tokens

Two pieces of work that differ in the values of authorization headers are compared step by step.

1. `Redirects.Discreet` is what is asked of the way to other addresses: it does not look at the values
   of authorization headers, and brings none. The way of the web is so (`usual_discreet`).
2. `Work.Alike` compares two pieces of work. It is kept from part to part (`Alike.bind`), and holds of
   what is sent over all addresses that a request is led to (`Alike.send`).
3. So two loops of attempts go alike, by induction on the repetitions that are left
   (`Client.attempts_alike`).
-/

namespace ResultFlow.Http

/-! ## Authorization headers -/

/-- A header with its value changed if it is an authorization header. -/
def recastHeader (f : String → String) (h : Header) : Header :=
  if h.1 = "authorization" then (h.1, f h.2) else h

theorem recastHeader_fst (f : String → String) (h : Header) : (recastHeader f h).1 = h.1 := by
  unfold recastHeader
  split <;> rfl

theorem recastHeader_eq_self {f : String → String} {h : Header}
    (hf : h.1 = "authorization" → f h.2 = h.2) : recastHeader f h = h := by
  unfold recastHeader
  split
  · rename_i hname
    rw [hf hname]
  · rfl

theorem map_recastHeader_eq_self {f : String → String} {hs : List Header}
    (hf : ∀ h ∈ hs, h.1 = "authorization" → f h.2 = h.2) : hs.map (recastHeader f) = hs :=
  (List.map_congr_left fun h hh => recastHeader_eq_self (hf h hh)).trans (List.map_id hs)

namespace Request

/-- The request with the values of its authorization headers changed. -/
def recast (f : String → String) (q : Request) : Request :=
  { q with headers := q.headers.map (recastHeader f) }

/-- The authorization headers of a request are among some headers. -/
def Shows (q : Request) (hs : List Header) : Prop :=
  ∀ h ∈ q.headers, h.1 = "authorization" → h ∈ hs

theorem recast_id (q : Request) : q.recast id = q := by
  rw [recast, map_recastHeader_eq_self fun _ _ _ => rfl]

theorem map_recast_id (qs : List Request) : qs.map (·.recast id) = qs :=
  (List.map_congr_left fun q _ => q.recast_id).trans (List.map_id qs)

end Request

/-- The way to other addresses does not depend on the values of authorization headers, and brings no
such header. -/
structure Redirects.Discreet (rd : Redirects) : Prop where
  blind : ∀ f q response,
    rd.next? (q.recast f) response = (rd.next? q response).map (·.recast f)
  bringsNone : ∀ q response next, rd.next? q response = some next → next.Shows q.headers

/-! ### The way of the web -/

namespace Request

variable {q : Request} {hs : List Header}

theorem recast_without (f : String → String) (q : Request) (names : List String) :
    (q.recast f).without names = (q.without names).recast f := by
  unfold without recast
  rw [List.filter_map]
  simp only [Function.comp_def, recastHeader_fst]

theorem Shows.without (h : q.Shows hs) (names : List String) : (q.without names).Shows hs :=
  fun x hx => h x (List.mem_filter.mp hx).1

theorem again?_recast (f : String → String) (q : Request) (status : Nat) :
    (q.recast f).again? status = (q.again? status).map (·.recast f) := by
  have hemptied : (q.recast f).emptied = q.emptied.recast f := by
    unfold emptied
    rw [recast_without]
    rfl
  have hmethod : (q.recast f).method = q.method := rfl
  unfold again?
  rw [hemptied, hmethod]
  by_cases hfound : status = 301 ∨ status = 302
  · rw [if_pos hfound, if_pos hfound, Option.map_some]
    by_cases hpost : q.method = "POST"
    · rw [if_pos hpost, if_pos hpost]
      rfl
    · rw [if_neg hpost, if_neg hpost]
  · rw [if_neg hfound, if_neg hfound]
    by_cases hother : status = 303
    · rw [if_pos hother, if_pos hother, Option.map_some]
      by_cases hhead : q.method = "HEAD"
      · rw [if_pos hhead, if_pos hhead]
      · rw [if_neg hhead, if_neg hhead]
        rfl
    · rw [if_neg hother, if_neg hother]
      by_cases hsame : status = 307 ∨ status = 308
      · rw [if_pos hsame, if_pos hsame]
        rfl
      · rw [if_neg hsame, if_neg hsame]
        rfl

theorem Shows.again? (h : q.Shows hs) {status : Nat} {form : Request}
    (hf : q.again? status = some form) : form.Shows hs := by
  have hemptied : q.emptied.Shows hs := h.without bodyNames
  unfold Request.again? at hf
  split at hf
  · cases hf
    split
    · exact hemptied
    · exact h
  · split at hf
    · cases hf
      split
      · exact hemptied
      · exact hemptied
    · split at hf
      · cases hf
        exact h
      · cases hf

theorem keptFor_recast (f : String → String) (q : Request) (url : Url) :
    (q.recast f).keptFor url = (q.keptFor url).recast f := by
  have hurl : (q.recast f).url = q.url := rfl
  unfold keptFor
  rw [hurl, recast_without]
  split <;> rfl

theorem Shows.keptFor (h : q.Shows hs) (url : Url) : (q.keptFor url).Shows hs := by
  unfold Request.keptFor
  split
  · exact h
  · exact h.without _

theorem referredBy_recast (f : String → String) (q : Request) (address : String) :
    (q.recast f).referredBy address = (q.referredBy address).recast f := by
  have hname : ¬ "referer" = "authorization" := by decide
  have hreferer : recastHeader f ("referer", address) = ("referer", address) :=
    recastHeader_eq_self fun h => absurd h hname
  unfold referredBy
  rw [recast_without]
  unfold recast
  dsimp only
  rw [List.map_append, List.map_singleton, hreferer]

theorem Shows.referredBy (h : q.Shows hs) (address : String) : (q.referredBy address).Shows hs := by
  intro x hx hname
  rcases List.mem_append.mp hx with hx | hx
  · exact h.without _ x hx hname
  · have hreferer : x.1 = "referer" := congrArg Prod.fst (List.mem_singleton.mp hx)
    rw [hreferer] at hname
    exact absurd hname (by decide)

theorem movedTo_recast (f : String → String) (q : Request) (url : Url) :
    (q.recast f).movedTo url = (q.movedTo url).recast f := by
  have hurl : (q.recast f).url = q.url := rfl
  have haddressed : ∀ q : Request, (q.recast f).addressed url = (q.addressed url).recast f :=
    fun _ => rfl
  unfold movedTo
  dsimp only
  rw [hurl, keptFor_recast, referredBy_recast, ← haddressed]
  refine congrArg (addressed · url) ?_
  by_cases hprivate : q.url.scheme = "https" ∧ url.scheme = "http"
  · rw [if_pos hprivate, if_pos hprivate]
  · rw [if_neg hprivate, if_neg hprivate]

theorem Shows.movedTo (h : q.Shows hs) (url : Url) : (q.movedTo url).Shows hs := by
  have haddressed : ∀ {q : Request}, q.Shows hs → (q.addressed url).Shows hs := fun h => h
  refine haddressed ?_
  by_cases hprivate : q.url.scheme = "https" ∧ url.scheme = "http"
  · rw [if_pos hprivate]
    exact h.keptFor url
  · rw [if_neg hprivate]
    exact (h.keptFor url).referredBy _

end Request

theorem Redirects.usual_discreet : Redirects.usual.Discreet where
  blind f q response := by
    show ((q.recast f).again? response.status).bind _ = Option.map _ ((q.again? _).bind _)
    rw [Request.again?_recast, Option.map_bind, Option.bind_map]
    refine congrArg (Option.bind _) (funext fun form => ?_)
    show Option.bind _ _ = Option.map _ (Option.bind _ _)
    rw [Option.map_bind]
    refine congrArg (Option.bind _) (funext fun reference => ?_)
    show Option.bind _ _ = Option.map _ (Option.bind _ _)
    rw [Option.map_bind]
    refine congrArg (Option.bind _) (funext fun url => ?_)
    exact congrArg some (form.movedTo_recast f _)
  bringsNone q response next h := by
    obtain ⟨form, hform, h⟩ := Option.bind_eq_some_iff.mp h
    obtain ⟨reference, -, h⟩ := Option.bind_eq_some_iff.mp h
    obtain ⟨url, -, h⟩ := Option.bind_eq_some_iff.mp h
    cases h
    have hown : q.Shows q.headers := fun x hx _ => hx
    exact (hown.again? hform).movedTo _

/-! ## Two pieces of work -/

/-- After equally many requests, two pieces of work come to the same and do the same on the way. The
second sends the requests of the first with the values of authorization headers changed, and these
headers of the first are among some headers. -/
def Work.Alike {α : Type} (f : String → String) (hs : List Header) (v w : Work (List Request) α) :
    Prop :=
  ∀ sent₁ sent₂ : List Request, sent₁.length = sent₂.length → ∃ outcome trace added,
    v.run sent₁ = ⟨outcome, sent₁ ++ added, trace⟩ ∧
    w.run sent₂ = ⟨outcome, sent₂ ++ added.map (·.recast f), trace⟩ ∧
    ∀ q ∈ added, q.Shows hs

namespace Work.Alike

variable {α β : Type} {f : String → String} {hs : List Header} {v w : Work (List Request) α}

theorem finish (outcome : Outcome α) : Alike f hs (Work.finish outcome) (Work.finish outcome) := by
  intro sent₁ sent₂ _
  refine ⟨outcome, [], [], ?_, ?_, nofun⟩
  · rw [List.append_nil]
    rfl
  · rw [List.map_nil, List.append_nil]
    rfl

theorem ofExcept (x : Except Error α) : Alike f hs (Work.ofExcept x) (Work.ofExcept x) := finish _

theorem checked (p : Panic) (x : Option α) : Alike f hs (Work.checked p x) (Work.checked p x) := by
  cases x <;> exact finish _

theorem act (a : Act) : Alike f hs (Work.act a) (Work.act a) := by
  intro sent₁ sent₂ _
  refine ⟨.ok (), [a], [], ?_, ?_, nofun⟩
  · rw [List.append_nil]
    rfl
  · rw [List.map_nil, List.append_nil]
    rfl

/-- What goes alike part by part goes alike. -/
theorem bind {next₁ next₂ : α → Work (List Request) β} (h : Alike f hs v w)
    (hnext : ∀ a, Alike f hs (next₁ a) (next₂ a)) : Alike f hs (v >>= next₁) (w >>= next₂) := by
  intro sent₁ sent₂ hlen
  obtain ⟨outcome, trace, added, h₁, h₂, hadded⟩ := h sent₁ sent₂ hlen
  cases outcome with
  | error e => exact ⟨_, _, added, run_bind_of_error h₁ _, run_bind_of_error h₂ _, hadded⟩
  | panic p => exact ⟨_, _, added, run_bind_of_panic h₁ _, run_bind_of_panic h₂ _, hadded⟩
  | ok a =>
    have hlen' : (sent₁ ++ added).length = (sent₂ ++ added.map (·.recast f)).length := by
      rw [List.length_append, List.length_append, List.length_map, hlen]
    obtain ⟨outcome, trace', more, h₁', h₂', hmore⟩ := hnext a _ _ hlen'
    refine ⟨outcome, trace ++ trace', added ++ more, ?_, ?_, ?_⟩
    · rw [run_bind_of_ok h₁, h₁', List.append_assoc]
      rfl
    · rw [run_bind_of_ok h₂, h₂', List.map_append, List.append_assoc]
      rfl
    · intro q hq
      exact (List.mem_append.mp hq).elim (hadded q) (hmore q)

theorem mapError (h : Alike f hs v w) (g : Error → Error) :
    Alike f hs (v.mapError g) (w.mapError g) := by
  intro sent₁ sent₂ hlen
  obtain ⟨outcome, trace, added, h₁, h₂, hadded⟩ := h sent₁ sent₂ hlen
  refine ⟨outcome.mapError g, trace, added, ?_, ?_, hadded⟩
  · unfold Work.mapError
    dsimp only
    rw [h₁]
  · unfold Work.mapError
    dsimp only
    rw [h₂]

end Work.Alike

/-! ### Exchanges -/

section Exchanges

variable {f : String → String} {hs : List Header} {rd : Redirects} {q : Request}
  {sent₁ sent₂ : List Request}

/-- Two exchanges after some requests have got the same answer. -/
def SentAlike (f : String → String) (hs : List Header) (sent₁ sent₂ : List Request)
    (x y : Answer × List Request) : Prop :=
  ∃ answer added, x = (answer, sent₁ ++ added) ∧ y = (answer, sent₂ ++ added.map (·.recast f)) ∧
    ∀ q ∈ added, q.Shows hs

theorem SentAlike.nil (answer : Answer) :
    SentAlike f hs sent₁ sent₂ (answer, sent₁) (answer, sent₂) :=
  ⟨answer, [], by rw [List.append_nil], by rw [List.map_nil, List.append_nil], nofun⟩

/-- A request goes before what is sent after it. -/
theorem SentAlike.cons {x y : Answer × List Request} (hq : q.Shows hs)
    (h : SentAlike f hs (sent₁ ++ [q]) (sent₂ ++ [q.recast f]) x y) :
    SentAlike f hs sent₁ sent₂ x y := by
  obtain ⟨answer, added, rfl, rfl, hadded⟩ := h
  refine ⟨answer, q :: added, ?_, ?_, ?_⟩
  · rw [List.append_assoc, List.singleton_append]
  · rw [List.append_assoc, List.map_cons, List.singleton_append]
  · exact List.forall_mem_cons.mpr ⟨hq, hadded⟩

namespace Transport

/-- At one address, requests that differ in the values of authorization headers get the same answer,
and lead to such requests. -/
theorem hop_alike (hd : rd.Discreet) (hq : q.Shows hs) (answers : Nat → Answer)
    (hlen : sent₁.length = sent₂.length) {more₁ more₂ : Request → List Request → Answer × List Request}
    (hmore : ∀ next, next.Shows hs → SentAlike f hs (sent₁ ++ [q]) (sent₂ ++ [q.recast f])
      (more₁ next (sent₁ ++ [q])) (more₂ (next.recast f) (sent₂ ++ [q.recast f]))) :
    SentAlike f hs sent₁ sent₂ ((script answers).hop rd q sent₁ more₁)
      ((script answers).hop rd (q.recast f) sent₂ more₂) := by
  have hurl : (q.recast f).url = q.url := rfl
  have hsend₁ : (script answers).send q sent₁ = (answers sent₁.length, sent₁ ++ [q]) := rfl
  have hsend₂ : (script answers).send (q.recast f) sent₂ =
      (answers sent₁.length, sent₂ ++ [q.recast f]) := by
    rw [hlen]
    rfl
  unfold hop
  rw [hurl]
  by_cases hscheme : q.url.scheme = "http" ∨ q.url.scheme = "https"
  · rw [if_pos hscheme, if_pos hscheme, hsend₁, hsend₂]
    refine .cons hq ?_
    cases answers sent₁.length with
    | error e => exact .nil _
    | ok response =>
      dsimp only
      rw [hd.blind]
      cases hnext : rd.next? q response with
      | none => exact .nil _
      | some next =>
        exact hmore next fun h hh hname => hq h (hd.bringsNone q response next hnext h hh hname) hname
  · rw [if_neg hscheme, if_neg hscheme]
    exact .nil _

/-- So they do over all addresses that they are led to. -/
theorem follow_alike (hd : rd.Discreet) (answers : Nat → Answer) (left : Nat) (hq : q.Shows hs)
    (hlen : sent₁.length = sent₂.length) :
    SentAlike f hs sent₁ sent₂ ((script answers).follow rd left q sent₁)
      ((script answers).follow rd left (q.recast f) sent₂) := by
  induction left generalizing q sent₁ sent₂ with
  | zero => exact hop_alike hd hq answers hlen fun _ _ => .nil _
  | succ left ih =>
    refine hop_alike hd hq answers hlen fun next hnext => ih hnext ?_
    rw [List.length_append, List.length_append, hlen, List.length_singleton, List.length_singleton]

end Transport

theorem Work.Alike.send (hd : rd.Discreet) (hq : q.Shows hs) (answers : Nat → Answer) :
    Alike f hs (Work.step (((Transport.script answers).following rd).send q))
      (Work.step (((Transport.script answers).following rd).send (q.recast f))) := by
  intro sent₁ sent₂ hlen
  obtain ⟨answer, added, h₁, h₂, hadded⟩ := Transport.follow_alike hd answers rd.limit hq hlen
  exact ⟨.ok answer, [], added, run_step h₁, run_step h₂, hadded⟩

end Exchanges

/-! ### Attempts -/

/-- Work that changes nothing and then more is what it hands on. -/
theorem Work.bind_eq {τ α β : Type} {w : Work τ α} {a : α} (h : ∀ s, w.run s = ⟨.ok a, s, []⟩)
    (next : α → Work τ β) : w >>= next = next a := by
  have hrun : (w >>= next).run = (next a).run := funext fun s => run_bind_of_ok (h s) next
  exact congrArg Work.mk hrun

theorem Work.ofExcept_ok_bind {τ α β : Type} (a : α) (next : α → Work τ β) :
    Work.ofExcept (.ok a) >>= next = next a := bind_eq (fun _ => rfl) next

theorem Work.ofExcept_error_bind {τ α β : Type} (e : Error) (next : α → Work τ β) :
    Work.ofExcept (.error e) >>= next = fail e := rfl

namespace Client

variable {c : Client (List Request)} {p : Provider (List Request)} {f : String → String}
  {hs : List Header} {rd : Redirects} {r q₁ q₂ : Request} {authorized : Bool}

/-- With another provider a client makes the same request of one, but for the values of authorization
headers. -/
structure SignsAlike (c : Client (List Request)) (p : Provider (List Request)) (f : String → String)
    (hs : List Header) (r : Request) (authorized : Bool) (q₁ q₂ : Request) : Prop where
  first : ∀ s, (c.authorize r authorized).run s = ⟨.ok q₁, s, []⟩
  second : ∀ s, ({ c with provider := p }.authorize r authorized).run s = ⟨.ok q₂, s, []⟩
  recast : { c with provider := p }.complete q₂ = (c.complete q₁).recast f
  shows : (c.complete q₁).Shows hs

theorem attemptLimit_alike (c : Client (List Request)) (p : Provider (List Request))
    (level : Log.Level) :
    Work.Alike f hs (c.attemptLimit level) ({ c with provider := p }.attemptLimit level) := by
  unfold attemptLimit
  dsimp only
  split
  · exact .checked _ _
  · exact .finish _

theorem backOff_alike (c : Client (List Request)) (p : Provider (List Request)) (url : Url)
    (number : Nat) (answer : Answer) :
    Work.Alike f hs (c.backOff url number answer)
      ({ c with provider := p }.backOff url number answer) := by
  unfold backOff
  refine .bind (c.attemptLimit_alike p _) fun limit => .bind (.act _) fun _ => ?_
  exact .bind (.checked _ _) fun pause => .bind (.act _) fun _ => .act _

variable (hd : rd.Discreet) (h : c.SignsAlike p f hs r authorized q₁ q₂) (answers : Nat → Answer)

include hd h in
theorem attempt_alike (made : Nat) :
    Work.Alike f hs (c.attempt ((Transport.script answers).following rd) r authorized made)
      ({ c with provider := p }.attempt ((Transport.script answers).following rd) r authorized
        made) := by
  unfold attempt
  refine .bind (.checked _ _) fun number => ?_
  rw [Work.bind_eq h.first, Work.bind_eq h.second, h.recast]
  refine .bind (c.attemptLimit_alike p _) fun limit => .bind (.act _) fun _ => ?_
  exact .bind (.send hd h.shows answers) fun answer => .finish _

include hd h in
/-- Loops of attempts go alike with either provider. -/
theorem attempts_alike (made : Nat) (earlier : Option String) (retries : Nat) :
    Work.Alike f hs
      (c.attempts ((Transport.script answers).following rd) r authorized made earlier retries)
      ({ c with provider := p }.attempts ((Transport.script answers).following rd) r authorized made
        earlier retries) := by
  induction retries generalizing made earlier with
  | zero =>
    rw [attempts, attempts]
    exact .bind (attempt_alike hd h answers made) fun _ => .ofExcept _
  | succ retries ih =>
    rw [attempts, attempts]
    refine .bind (attempt_alike hd h answers made) fun attempted => ?_
    dsimp only
    cases retryReason? r.url attempted.2 with
    | none => exact .ofExcept _
    | some reason => exact .bind (c.backOff_alike p _ _ _) fun _ => ih _ _

end Client

end ResultFlow.Http
