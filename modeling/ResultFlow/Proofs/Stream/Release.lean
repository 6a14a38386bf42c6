import ResultFlow.Proofs.Stream.Exact
import ResultFlow.Proofs.Stream.Outcome
import ResultFlow.Proofs.Stream.Supply

/-!
# The end of a subscription

Three parties can end a subscription: the producer by a failure, the caller that gives up the stream
before its reader was found, and the reader that is closed before the end of the stream. Dropping a
reader is closing it. They may come in any order and more than once, before the subscription or
after it; it is cancelled once if one of them came, and never otherwise.

1. A `Link` is what a bridge holds of its subscription. Every action but subscribing asks for more
   over the link or releases it (`link_step`), so a link that is bound to a subscription stays
   bound (`Link.Bound`).
2. A run released its bridge exactly if it gave up the stream (`released_iff`).
3. Main statement: the signals of a run in which one subscription comes.
-/

namespace ResultFlow

/-! ## Links -/

/-- What a bridge holds of its subscription. -/
structure Link where
  released : Bool
  subscription : Option String
  signals : List Signal

namespace Link

/-- Sends demand, if there is any and somebody to take it. -/
def ask (l : Link) : Option Nat → Link
  | none => l
  | some n =>
    if l.released then l
    else match l.subscription with
      | some name => { l with signals := l.signals ++ [.request name n] }
      | none => l

/-- Cancels the subscription, now or as soon as it comes. -/
def release (l : Link) : Link :=
  if l.released then l
  else match l.subscription with
    | some name => ⟨true, none, l.signals ++ [.cancel name]⟩
    | none => { l with released := true }

/-- A subscription comes, and gets a first demand unless it comes too late. -/
def subscribe (l : Link) (name : String) (demand : Nat) : Link :=
  if l.released then { l with signals := l.signals ++ [.cancel name] }
  else { l with subscription := some name, signals := l.signals ++ [.request name demand] }

/-- No subscription came yet. -/
inductive Bare : Link → Prop
  | intro (released : Bool) : Bare ⟨released, none, []⟩

/-- A subscription was asked for chunks and, once the link is released, cancelled. -/
inductive Bound (name : String) : Link → Prop
  | held (asked : List Nat) : Bound name ⟨false, some name, asked.map (.request name)⟩
  | released (asked : List Nat) :
    Bound name ⟨true, none, asked.map (.request name) ++ [.cancel name]⟩

variable {l : Link} {name : String}

theorem released_ask (l : Link) (demand : Option Nat) : (l.ask demand).released = l.released := by
  unfold ask
  split
  · rfl
  · split
    · rfl
    · split <;> rfl

theorem released_release (l : Link) : l.release.released = true := by
  unfold release
  split
  · assumption
  · split <;> rfl

theorem released_subscribe (l : Link) (name : String) (demand : Nat) :
    (l.subscribe name demand).released = l.released := by
  unfold subscribe
  split <;> rfl

theorem Bare.ask (h : l.Bare) (demand : Option Nat) : (l.ask demand).Bare := by
  cases h with
  | intro released => cases demand <;> cases released <;> exact .intro _

theorem Bare.release (h : l.Bare) : l.release.Bare := by
  cases h with
  | intro released => cases released <;> exact .intro true

/-- A subscription that comes is bound to the link. -/
theorem Bare.subscribe (h : l.Bare) (name : String) (demand : Nat) :
    (l.subscribe name demand).Bound name := by
  cases h with
  | intro released =>
    cases released with
    | false => exact .held [demand]
    | true => exact .released []

theorem Bound.ask (h : l.Bound name) (demand : Option Nat) : (l.ask demand).Bound name := by
  cases h with
  | held asked =>
    cases demand with
    | none => exact .held asked
    | some n =>
      have h : Bound name _ := .held (asked ++ [n])
      rw [List.map_append] at h
      exact h
  | released asked => cases demand <;> exact .released asked

theorem Bound.release (h : l.Bound name) : l.release.Bound name := by
  cases h with
  | held asked => exact .released asked
  | released asked => exact .released asked

end Link

namespace Bridge

variable (b : Bridge)

def link : Link := ⟨b.released, b.subscription, b.signals⟩

theorem link_request (n : Nat) : (b.request n).link = b.link.ask (some n) := by
  cases hr : b.released with
  | true => simp [request, Link.ask, link, hr]
  | false => cases hs : b.subscription <;> simp [request, Link.ask, link, send, hr, hs]

theorem link_withFlow (demand : Option Nat) (flow : Flow) :
    (b.withFlow demand flow).link = b.link.ask demand := by
  cases demand with
  | none => rfl
  | some n => exact link_request _ n

theorem link_release : b.release.link = b.link.release := by
  cases hr : b.released with
  | true => simp [release, Link.release, link, hr]
  | false => cases hs : b.subscription <;> simp [release, Link.release, link, send, log, hr, hs]

theorem link_subscribe (name : String) :
    ∃ demand, (b.subscribe name).link = b.link.subscribe name demand := by
  refine ⟨(b.flow.subscribe (b.response.bind (·.length))).1, ?_⟩
  cases hr : b.released <;> simp [subscribe, Link.subscribe, link, send, log, hr]

theorem Reads.link {b b' : Bridge} (h : b.Reads b') : ∃ demand, b'.link = b.link.ask demand := by
  cases h with
  | chunk => exact ⟨_, link_withFlow ..⟩
  | nothing | finish | left => exact ⟨none, rfl⟩

end Bridge

namespace Session

variable {s : Session} {a : Action} {before after actions : List Action}

/-! ## Who releases -/

/-- An action releases the bridge, whether or not that was done before. -/
def Releases (s : Session) : Action → Prop
  | .fail _ => s.bridge.failure = none
  | .drop => s.prepared.resolved = false
  | .close => ∃ r, s.reader = some r ∧ r.closed = false ∧ r.finished = false ∧
      s.bridge.complete = false
  | .answer _ | .subscribe _ | .next _ | .finish | .poll _ | .watch | .read _ | .readByte | .wake
  | .available | .interrupt => False

/-- An action of the reader asks for more over the link, if it does so for every reader. -/
theorem link_onReader (f : Reader → Reader × Bridge)
    (h : ∀ r, ∃ demand, (f r).2.link = s.bridge.link.ask demand) :
    ∃ demand, (s.onReader f).bridge.link = s.bridge.link.ask demand :=
  onReader_bridge (P := fun b => ∃ demand, b.link = s.bridge.link.ask demand) f ⟨none, rfl⟩ h

/-- Closing releases the link or leaves it alone. -/
theorem link_close (s : Session) :
    (s.Releases .close ∧ (s.step .close).bridge.link = s.bridge.link.release) ∨
    (¬ s.Releases .close ∧ (s.step .close).bridge.link = s.bridge.link) := by
  rcases hr : s.reader with _ | r
  · refine .inr ⟨?_, congrArg (·.bridge.link) (onReader_of_none hr _)⟩
    rintro ⟨r, he, -⟩
    rw [hr] at he
    cases he
  · have hs : (s.step .close).bridge = (r.close s.bridge).2 :=
      congrArg Session.bridge (onReader_of_some hr _)
    rw [hs]
    unfold Reader.close
    by_cases hc : r.closed = true
    · rw [if_pos hc]
      refine .inr ⟨?_, rfl⟩
      rintro ⟨r', he, ho, -⟩
      rw [hr] at he
      cases he
      rw [hc] at ho
      cases ho
    rw [if_neg hc]
    by_cases hd : (s.bridge.complete || r.finished) = true
    · simp only [if_pos hd]
      refine .inr ⟨?_, trivial⟩
      rintro ⟨r', he, -, hf, hn⟩
      rw [hr] at he
      cases he
      rw [hf, hn] at hd
      cases hd
    · simp only [if_neg hd]
      obtain ⟨hn, hf⟩ := Bool.or_eq_false_iff.mp (Bool.eq_false_iff.mpr hd)
      exact .inl ⟨⟨r, hr, Bool.eq_false_iff.mpr hc, hf, hn⟩, Bridge.link_release _⟩

/-- Every action but subscribing releases the link or asks for more over it. -/
theorem link_step (s : Session) (ha : a.subscribes = false) :
    (s.Releases a ∧ (s.step a).bridge.link = s.bridge.link.release) ∨
    (¬ s.Releases a ∧ ∃ demand, (s.step a).bridge.link = s.bridge.link.ask demand) := by
  cases a with
  | subscribe name => cases ha
  | answer info => exact .inr ⟨id, none, rfl⟩
  | next bytes => exact .inr ⟨id, _, Bridge.link_withFlow ..⟩
  | finish => exact .inr ⟨id, none, rfl⟩
  | fail cause =>
    show (s.bridge.failure = none ∧ (s.bridge.fail cause).link = _) ∨
      (¬ s.bridge.failure = none ∧ ∃ demand, (s.bridge.fail cause).link = _)
    unfold Bridge.fail
    cases hf : s.bridge.failure with
    | none => exact .inl ⟨rfl, Bridge.link_release _⟩
    | some e => exact .inr ⟨nofun, none, rfl⟩
  | poll watching =>
    refine .inr ⟨id, none, ?_⟩
    rcases s.step_poll_cases watching with ⟨info, -, -, he⟩ | ⟨prepared, -, he⟩ <;> rw [he]
    · rfl
    · rfl
  | drop =>
    show (s.prepared.resolved = false ∧ (s.prepared.drop s.bridge).link = _) ∨
      (¬ s.prepared.resolved = false ∧ ∃ demand, (s.prepared.drop s.bridge).link = _)
    unfold Prepared.drop
    cases hr : s.prepared.resolved with
    | true => exact .inr ⟨nofun, none, rfl⟩
    | false => exact .inl ⟨rfl, Bridge.link_release _⟩
  | watch => exact .inr ⟨id, link_onReader _ fun _ => ⟨none, rfl⟩⟩
  | read | readByte | wake => exact .inr ⟨id, (s.reads_step rfl).link⟩
  | available => exact .inr ⟨id, none, rfl⟩
  | close =>
    rcases s.link_close with ⟨h, he⟩ | ⟨h, he⟩
    · exact .inl ⟨h, he⟩
    · exact .inr ⟨h, none, he⟩
  | interrupt => exact .inr ⟨id, none, rfl⟩

/-- What asking and releasing keep of a link, every run without a subscription keeps. -/
theorem link_run {P : Link → Prop} (ask : ∀ l demand, P l → P (l.ask demand))
    (release : ∀ l, P l → P l.release) (ha : ∀ a ∈ actions, a.subscribes = false)
    (h : P s.bridge.link) : P (s.run actions).bridge.link := by
  induction actions generalizing s with
  | nil => exact h
  | cons a actions ih =>
    obtain ⟨hfirst, hrest⟩ := List.forall_mem_cons.mp ha
    refine ih hrest ?_
    rcases s.link_step hfirst with ⟨-, he⟩ | ⟨-, demand, he⟩ <;> rw [he]
    · exact release _ h
    · exact ask _ demand h

theorem released_step (s : Session) (a : Action) :
    (s.step a).bridge.released = true ↔ s.bridge.released = true ∨ s.Releases a := by
  cases ha : a.subscribes with
  | true =>
    cases a with
    | subscribe name =>
      obtain ⟨demand, he⟩ := s.bridge.link_subscribe name
      have hr : (s.step (.subscribe name)).bridge.released = s.bridge.released :=
        (congrArg Link.released he).trans (Link.released_subscribe ..)
      rw [hr]
      exact ⟨.inl, fun h => h.resolve_right id⟩
    | _ => cases ha
  | false =>
    rcases s.link_step ha with ⟨h, he⟩ | ⟨h, demand, he⟩
    · have hr : (s.step a).bridge.released = true :=
        (congrArg Link.released he).trans (Link.released_release _)
      exact ⟨fun _ => .inr h, fun _ => hr⟩
    · have hr : (s.step a).bridge.released = s.bridge.released :=
        (congrArg Link.released he).trans (Link.released_ask ..)
      rw [hr]
      exact ⟨.inl, fun h' => h'.resolve_right h⟩

end Session

/-! ## Readers that are done -/

namespace Transcript

open Session (Action)

theorem run_session (t : Transcript) (actions : List Action) :
    (t.run actions).session = t.session.run actions := by
  induction actions generalizing t with
  | nil => rfl
  | cons a actions ih => exact ih (t.step a)

theorem ended_step (t : Transcript) (a : Action) :
    (t.step a).ended = true ↔ t.ended = true ∨ a = .finish := by
  cases a with
  | finish => exact ⟨fun _ => .inr rfl, fun _ => rfl⟩
  | _ => exact ⟨.inl, fun h => h.resolve_right nofun⟩

theorem ended_run (t : Transcript) (actions : List Action) :
    (t.run actions).ended = true ↔ t.ended = true ∨ .finish ∈ actions := by
  induction actions generalizing t with
  | nil => simp [run]
  | cons a actions ih =>
    rw [run, List.foldl_cons, ← run, ih, ended_step, List.mem_cons, or_assoc, eq_comm (a := a)]

end Transcript

namespace Session

variable {s : Session} {a : Action} {before after actions : List Action}

/-- A reader that reached the end was told of it. -/
theorem finish_mem_of_finished {settings : StreamSettings} {r : Reader}
    (hu : ((start settings).run actions).Unclosed)
    (hr : ((start settings).run actions).reader = some r) (hf : r.finished = true) :
    .finish ∈ actions := by
  have ht : ((Transcript.start settings).run actions).Reached := ⟨settings, actions, rfl⟩
  have hs := (Transcript.start settings).run_session actions
  have hi := ht.sound.intact (hs ▸ hu)
  rw [hs, show (Transcript.start settings).session = start settings from rfl,
    current_of_some hr] at hi
  exact ((Transcript.ended_run ..).mp (hi.last hf).1).resolve_left nofun

/-- A reader was closed only after the end of the stream, or else the bridge is released. -/
theorem released_or_complete_of_closed (settings : StreamSettings) (actions : List Action) :
    ¬ ((start settings).run actions).Unclosed →
      ((start settings).run actions).bridge.released = true ∨
        ((start settings).run actions).bridge.complete = true := by
  induction actions using List.reverseRecOn with
  | nil => exact fun h => absurd (fun r hr => by cases hr) h
  | append_singleton before a ih =>
    rw [run_concat, released_step, step_complete]
    intro h
    by_cases hu : ((start settings).run before).Unclosed
    · -- only closing closes the reader, and it releases what is not complete
      obtain rfl : a = .close := Decidable.byContradiction fun ha => h (hu.step ha)
      rcases hr : ((start settings).run before).reader with _ | r
      · refine absurd (fun r hr' => ?_) h
        have hn : (((start settings).run before).step .close).reader = none :=
          (congrArg Session.reader (onReader_of_none hr _)).trans hr
        rw [hn] at hr'
        cases hr'
      · by_cases hc : ((start settings).run before).bridge.complete = true
        · exact .inr (.inl hc)
        · have hf : r.finished = false := by
            rw [Bool.eq_false_iff]
            exact fun hf => hc ((records_run settings before).complete.mpr
              (finish_mem_of_finished hu hr hf))
          exact .inl (.inr ⟨r, hr, hu r hr, hf, Bool.eq_false_iff.mpr hc⟩)
    · rcases ih hu with hr | hc
      · exact .inl (.inl hr)
      · exact .inr (.inl hc)

/-! ## Runs that give up the stream -/

/-- An action after which nothing more of the stream is wanted: a failure, giving up the stream
before its reader was found, or closing the reader before the end. -/
def Ends (before : List Action) (a : Action) : Prop :=
  (∃ cause, a = .fail cause) ∨ (a = .drop ∧ ¬ Found before) ∨
    (a = .close ∧ Opened before ∧ .finish ∉ before)

/-- Some action of a run ended the stream early. -/
def GivenUp (actions : List Action) : Prop := Occurs Ends actions

theorem givenUp_concat (before : List Action) (a : Action) :
    GivenUp (before ++ [a]) ↔ GivenUp before ∨ Ends before a := occurs_concat a

theorem givenUp_of_failure (h : firstFailure actions ≠ none) : GivenUp actions := by
  unfold firstFailure at h
  rw [ne_eq, List.findSome?_eq_none_iff] at h
  simp only [not_forall] at h
  obtain ⟨a, hm, hc⟩ := h
  obtain ⟨before, after, rfl⟩ := List.append_of_mem hm
  cases a with
  | fail cause => exact ⟨before, _, after, rfl, .inl ⟨cause, rfl⟩⟩
  | _ => exact absurd rfl hc

theorem givenUp_of_drop (hd : .drop ∈ actions) (hf : ¬ Found actions) : GivenUp actions := by
  obtain ⟨before, after, rfl⟩ := List.append_of_mem hd
  refine ⟨before, _, after, rfl, .inr (.inl ⟨rfl, ?_⟩)⟩
  rintro ⟨first, a, rest, rfl, h⟩
  exact hf ⟨first, a, rest ++ .drop :: after, by simp, h⟩

/-- An action that releases the bridge ends the stream. -/
theorem Records.ends (h : Records before s) (hr : s.Releases a) : Ends before a := by
  cases a with
  | fail cause => exact .inl ⟨cause, rfl⟩
  | drop =>
    refine .inr (.inl ⟨rfl, fun hf => ?_⟩)
    rw [Releases, Bool.eq_false_iff, ne_eq, h.resolved] at hr
    exact hr (.inl hf)
  | close =>
    obtain ⟨r, hr, -, -, hc⟩ := hr
    refine .inr (.inr ⟨rfl, h.reader.mp (by rw [hr]; exact Option.some_ne_none r), ?_⟩)
    rw [← h.complete, hc]
    exact Bool.false_ne_true
  | _ => exact absurd hr id

/-- An action that ends the stream releases the bridge, unless the run gave up the stream before. -/
theorem givenUp_or_releases {settings : StreamSettings}
    (hg : ((start settings).run before).bridge.released = true → GivenUp before)
    (he : Ends before a) : GivenUp before ∨ ((start settings).run before).Releases a := by
  have h := records_run settings before
  rcases he with ⟨cause, rfl⟩ | ⟨rfl, hf⟩ | ⟨rfl, ho, hfin⟩
  · -- only the first failure releases
    by_cases hn : ((start settings).run before).bridge.failure = none
    · exact .inr hn
    · exact .inl (givenUp_of_failure (h.failure ▸ hn))
  · by_cases hr : ((start settings).run before).prepared.resolved = true
    · exact .inl (givenUp_of_drop ((h.resolved.mp hr).resolve_left hf) hf)
    · exact .inr (Bool.eq_false_iff.mpr hr)
  · have hc : ((start settings).run before).bridge.complete = false := by
      rw [Bool.eq_false_iff, ne_eq, h.complete]
      exact hfin
    by_cases hu : ((start settings).run before).Unclosed
    · obtain ⟨r, hr⟩ := Option.ne_none_iff_exists'.mp (h.reader.mpr ho)
      have hf : r.finished = false :=
        Bool.eq_false_iff.mpr fun hf => hfin (finish_mem_of_finished hu hr hf)
      exact .inr ⟨r, hr, hu r hr, hf, hc⟩
    · -- the reader was closed before, and that released the bridge
      have hd := released_or_complete_of_closed settings before hu
      exact .inl (hg (hd.resolve_right (Bool.eq_false_iff.mp hc)))

/-- A run released its bridge exactly if it gave up the stream. -/
theorem released_iff (settings : StreamSettings) (actions : List Action) :
    ((start settings).run actions).bridge.released = true ↔ GivenUp actions := by
  induction actions using List.reverseRecOn with
  | nil => exact ⟨nofun, fun h => absurd h not_occurs_nil⟩
  | append_singleton before a ih =>
    rw [run_concat, released_step, givenUp_concat, ih]
    constructor
    · rintro (hg | hr)
      · exact .inl hg
      · exact .inr ((records_run settings before).ends hr)
    · rintro (hg | he)
      · exact .inl hg
      · exact givenUp_or_releases ih.mp he

/-- **Cancelled once, or never.** In a run in which one subscription comes, at any time, it is
asked for chunks and then cancelled if the run gave up the stream, and it is only asked for chunks
if not. In no case is anything sent after it was cancelled. -/
theorem cancelled_once_iff_givenUp (settings : StreamSettings) {before after : List Action}
    (hb : ∀ a ∈ before, a.subscribes = false) (ha : ∀ a ∈ after, a.subscribes = false)
    (name : String) :
    let actions := before ++ .subscribe name :: after
    let signals := ((start settings).run actions).bridge.signals
    (GivenUp actions →
      ∃ asked : List Nat, signals = asked.map (.request name) ++ [.cancel name]) ∧
    (¬ GivenUp actions → ∃ asked : List Nat, signals = asked.map (.request name)) := by
  intro actions signals
  have hbare : ((start settings).run before).bridge.link.Bare :=
    link_run (fun l demand h => h.ask demand) (fun l h => h.release) hb (.intro false)
  obtain ⟨demand, hsub⟩ := ((start settings).run before).bridge.link_subscribe name
  have hbound : ((start settings).run actions).bridge.link.Bound name := by
    rw [show (start settings).run actions =
      (((start settings).run before).step (.subscribe name)).run after from run_append ..]
    refine link_run (fun l demand h => h.ask demand) (fun l h => h.release) ha ?_
    rw [show (((start settings).run before).step (.subscribe name)).bridge.link = _ from hsub]
    exact hbare.subscribe name demand
  have hreleased := released_iff settings actions
  generalize hl : ((start settings).run actions).bridge.link = l at hbound
  rw [show ((start settings).run actions).bridge.released = l.released from
    congrArg Link.released hl] at hreleased
  rw [show signals = l.signals from congrArg Link.signals hl, ← hreleased]
  cases hbound with
  | held asked => exact ⟨nofun, fun _ => ⟨asked, rfl⟩⟩
  | released asked => exact ⟨fun _ => ⟨asked, rfl⟩, fun h => absurd rfl h⟩

/-- A reader that is closed twice before the end cancels once, although the subscription came only
between the two. -/
theorem cancelled_once_of_close :
    let before : List Action := [.answer ⟨none, none⟩, .poll false, .close]
    let after : List Action := [.next [1], .close, .fail (.service "late")]
    let signals := ((start {}).run (before ++ .subscribe "s" :: after)).bridge.signals
    (∀ a ∈ before, a.subscribes = false) ∧ (∀ a ∈ after, a.subscribes = false) ∧
      ∃ asked : List Nat, signals = asked.map (.request "s") ++ [.cancel "s"] := by
  intro before after signals
  have hb : ∀ a ∈ before, a.subscribes = false := by decide
  have ha : ∀ a ∈ after, a.subscribes = false := by decide
  have hopened : Opened [.answer ⟨none, none⟩, .poll false] :=
    ⟨[.answer ⟨none, none⟩], .poll false, [], rfl, rfl, by simp, ⟨none, none⟩, rfl⟩
  have hgiven : GivenUp (before ++ .subscribe "s" :: after) :=
    ⟨_, .close, _, rfl, .inr (.inr ⟨rfl, hopened, by simp⟩)⟩
  exact ⟨hb, ha, (cancelled_once_iff_givenUp {} hb ha "s").1 hgiven⟩

end Session

end ResultFlow
