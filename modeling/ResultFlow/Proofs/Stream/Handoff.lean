import Mathlib.Data.List.Induction
import ResultFlow.Proofs.Stream.Delivery

/-!
# Handing chunks over

A queue between a producer and a receiver that use it in any order, until the producer goes away.
`Handoff` keeps the chunks that the queue accepted, those that it handed out and those that it
discarded. Together with the chunks that wait they stay one list in the order of arrival
(`Kept.conserved`). The end marker stands behind all of them, and as long as both sides are there it
is handed out once (`Kept.live`). An end is also reported to a receiver who closed the queue, or whose
producer went away, once nothing waits any more.
-/

namespace ResultFlow

/-! ## The chunks that wait -/

namespace Queue

variable {q : Queue}

/-- The chunks in a queue. -/
def chunks (q : Queue) : List Bytes :=
  q.items.filterMap fun
    | .chunk c => some c.val
    | .finish => none

theorem size_eq (q : Queue) : q.size = q.chunks.flatten.length := by
  unfold size chunks
  congr 1
  induction q.items with
  | nil => rfl
  | cons i rest ih =>
    cases i with
    | chunk c => exact congrArg (c.val ++ ·) ih
    | finish => exact ih

theorem push_eq_true_iff (bytes : Bytes) :
    (q.push bytes).1 = true ↔ bytes ≠ [] ∧ q.finished = false ∧ q.closed = false := by
  unfold push
  split
  · rename_i h
    exact ⟨fun _ => h, fun _ => rfl⟩
  · rename_i h
    exact ⟨nofun, fun hp => absurd hp h⟩

theorem push_of_true {bytes : Bytes} (h : (q.push bytes).1 = true) :
    ∃ c : Chunk, c.val = bytes ∧ (q.push bytes).2 = { q with items := q.items ++ [.chunk c] } := by
  have hp := (push_eq_true_iff bytes).mp h
  refine ⟨⟨bytes, hp.1⟩, rfl, ?_⟩
  unfold push
  rw [dif_pos hp]

theorem push_of_false {bytes : Bytes} (h : (q.push bytes).1 = false) : (q.push bytes).2 = q := by
  unfold push at h ⊢
  split
  · rename_i hp
    rw [dif_pos hp] at h
    cases h
  · rfl

theorem finish_eq_true_iff : q.finish.1 = true ↔ q.finished = false := by
  unfold finish
  split
  · rename_i h
    exact ⟨nofun, fun hf => nomatch h.symm.trans hf⟩
  · rename_i h
    exact ⟨fun _ => Bool.eq_false_iff.mpr h, fun _ => rfl⟩

theorem take_of_cons {i : Item} {rest : List Item} (h : q.items = i :: rest) :
    q.take = (some i, { q with items := rest }) := by
  unfold take
  rw [h]

theorem take_of_nil (h : q.items = []) :
    q.take = (if q.abandoned || q.closed then some .finish else none, q) := by
  unfold take
  rw [h]

end Queue

/-- Behind an end marker nothing follows, and in front of it there are chunks. -/
theorem Marked.tail {i : Item} {items : List Item} {ends : Bool} (h : Marked (i :: items) ends) :
    ∃ ends', Marked items ends' := by
  cases i with
  | chunk c => exact ⟨ends, h⟩
  | finish => exact ⟨false, by rw [h.2]; rfl⟩

/-! ## Histories -/

/-- A queue, and the chunks that went through it. -/
structure Handoff where
  queue : Queue := {}
  /-- The chunks that the queue accepted, in order. -/
  accepted : List Bytes := []
  /-- The chunks that the receiver took, in order. -/
  handed : List Bytes := []
  /-- The chunks that the receiver discarded. -/
  discarded : List Bytes := []
  /-- How often the receiver was told the end. -/
  ends : Nat := 0

namespace Handoff

/-- What the two sides do. Of the receivers who find nothing, one that tries goes away empty-handed,
and one that takes waits. -/
inductive Turn
  | push (bytes : Bytes)
  | finish
  | isFinished
  | abandon
  | take
  | tryTake
  | drain
  deriving DecidableEq

/-- A turn of the producer. -/
def Turn.byProducer : Turn → Bool
  | push _ | finish | isFinished | abandon => true
  | take | tryTake | drain => false

/-- What the receiver gets. -/
def receive (h : Handoff) : Handoff :=
  match h.queue.take with
  | (some (.chunk c), q) => { h with queue := q, handed := h.handed ++ [c.val] }
  | (some .finish, q) => { h with queue := q, ends := h.ends + 1 }
  | (none, q) => { h with queue := q }

def step (h : Handoff) : Turn → Handoff
  | .push bytes => { h with
      queue := (h.queue.push bytes).2
      accepted := if (h.queue.push bytes).1 then h.accepted ++ [bytes] else h.accepted }
  | .finish => { h with queue := h.queue.finish.2 }
  | .isFinished => h
  | .abandon => { h with queue := h.queue.abandon }
  | .take | .tryTake => h.receive
  | .drain => { h with
      queue := h.queue.drain.2
      discarded := h.discarded ++ h.queue.chunks }

/-- A new queue after these turns. -/
def run (turns : List Turn) : Handoff := turns.foldl step {}

/-- A producer that went away does nothing more. -/
def Orderly (turns : List Turn) : Prop :=
  turns.Pairwise fun first second => first = .abandon → second.byProducer = false

instance (turns : List Turn) : Decidable (Orderly turns) :=
  inferInstanceAs (Decidable (turns.Pairwise _))

theorem run_concat (turns : List Turn) (t : Turn) : run (turns ++ [t]) = (run turns).step t := by
  unfold run
  rw [List.foldl_append]
  rfl

/-- What these turns leave in the queue. -/
structure Kept (turns : List Turn) (h : Handoff) : Prop where
  finished : h.queue.finished = true ↔ .finish ∈ turns
  abandoned : h.queue.abandoned = true ↔ .abandon ∈ turns
  closed : h.queue.closed = true ↔ .drain ∈ turns
  /-- No chunk is lost, and none comes before an earlier one. -/
  conserved : h.handed ++ h.discarded ++ h.queue.chunks = h.accepted
  undiscarded : h.queue.closed = false → h.discarded = []
  empty : h.queue.closed = true → h.queue.items = []
  marked : ∃ ends, Marked h.queue.items ends
  /-- As long as both sides are there the end is told once, behind all chunks. -/
  live : h.queue.closed = false → h.queue.abandoned = false →
    Marked h.queue.items (h.queue.finished && h.ends == 0) ∧ h.ends ≤ 1 ∧
      (0 < h.ends → h.queue.finished = true ∧ h.queue.items = [])

variable {turns : List Turn} {h : Handoff} {t : Turn} {bytes : Bytes}

theorem step_push_of_true (hp : (h.queue.push bytes).1 = true) :
    h.step (.push bytes) =
      { h with queue := (h.queue.push bytes).2, accepted := h.accepted ++ [bytes] } := by
  simp only [step, hp, if_true]

theorem step_push_of_false (hp : (h.queue.push bytes).1 = false) : h.step (.push bytes) = h := by
  simp only [step, hp, Queue.push_of_false hp, Bool.false_eq_true, if_false]

theorem receive_of_chunk {c : Chunk} {rest : List Item} (hi : h.queue.items = .chunk c :: rest) :
    h.receive = { h with
      queue := { h.queue with items := rest }
      handed := h.handed ++ [c.val] } := by
  unfold receive
  rw [Queue.take_of_cons hi]

theorem receive_of_finish {rest : List Item} (hi : h.queue.items = .finish :: rest) :
    h.receive = { h with
      queue := { h.queue with items := rest }
      ends := h.ends + 1 } := by
  unfold receive
  rw [Queue.take_of_cons hi]

theorem receive_of_nil (hi : h.queue.items = []) :
    h.receive =
      if h.queue.abandoned || h.queue.closed then { h with ends := h.ends + 1 } else h := by
  unfold receive
  rw [Queue.take_of_nil hi]
  cases h.queue.abandoned || h.queue.closed <;> rfl

namespace Kept

theorem start : Kept [] {} where
  finished := ⟨nofun, nofun⟩
  abandoned := ⟨nofun, nofun⟩
  closed := ⟨nofun, nofun⟩
  conserved := rfl
  undiscarded _ := rfl
  empty _ := rfl
  marked := ⟨false, rfl⟩
  live _ _ := ⟨rfl, Nat.zero_le 1, nofun⟩

/-- A turn that leaves no mark. -/
theorem concat (k : Kept turns h) (hf : t ≠ .finish) (ha : t ≠ .abandon) (hd : t ≠ .drain) :
    Kept (turns ++ [t]) h where
  finished := by simp [k.finished, hf.symm]
  abandoned := by simp [k.abandoned, ha.symm]
  closed := by simp [k.closed, hd.symm]
  conserved := k.conserved
  undiscarded := k.undiscarded
  empty := k.empty
  marked := k.marked
  live := k.live

theorem push (k : Kept turns h) (ha : h.queue.abandoned = false) (bytes : Bytes) :
    Kept (turns ++ [.push bytes]) (h.step (.push bytes)) := by
  refine concat ?_ nofun nofun nofun
  by_cases hp : (h.queue.push bytes).1 = true
  · obtain ⟨-, hf, hc⟩ := (Queue.push_eq_true_iff bytes).mp hp
    obtain ⟨c, rfl, he⟩ := Queue.push_of_true hp
    obtain ⟨hm, hends, htold⟩ := k.live hc ha
    rw [hf] at hm
    have hm := hm.append_chunk c
    rw [step_push_of_true hp, he]
    exact {
      finished := k.finished
      abandoned := k.abandoned
      closed := k.closed
      conserved := by
        rw [← k.conserved]
        simp [Queue.chunks]
      undiscarded := k.undiscarded
      empty := fun hc' => Bool.noConfusion (hc.symm.trans hc')
      marked := ⟨false, hm⟩
      live := fun _ _ => by
        show Marked _ (h.queue.finished && _) ∧ _
        rw [hf]
        exact ⟨hm, hends, fun he => Bool.noConfusion (hf.symm.trans (htold he).1)⟩ }
  · rw [step_push_of_false (Bool.eq_false_iff.mpr hp)]
    exact k

theorem finish (k : Kept turns h) (ha : h.queue.abandoned = false) :
    Kept (turns ++ [.finish]) (h.step .finish) := by
  by_cases hf : h.queue.finished = true
  · -- the end was offered before
    have hm := k.finished.mp hf
    have he : h.step .finish = h := by
      show ({ h with queue := h.queue.finish.2 } : Handoff) = h
      rw [Queue.finish, if_pos hf]
    rw [he]
    exact { k with
      finished := by simp [hf]
      abandoned := by simp [k.abandoned]
      closed := by simp [k.closed] }
  have hf := Bool.eq_false_iff.mpr hf
  by_cases hc : h.queue.closed = true
  · have he : h.step .finish = { h with queue := { h.queue with finished := true } } := by
      show ({ h with queue := h.queue.finish.2 } : Handoff) = _
      rw [Queue.finish, if_neg (Bool.eq_false_iff.mp hf), if_pos hc]
    rw [he]
    exact {
      finished := by simp
      abandoned := by simp [k.abandoned]
      closed := by simp [k.closed]
      conserved := k.conserved
      undiscarded := k.undiscarded
      empty := k.empty
      marked := k.marked
      live := fun hc' => Bool.noConfusion (hc.symm.trans hc') }
  have hc := Bool.eq_false_iff.mpr hc
  obtain ⟨hm, -, htold⟩ := k.live hc ha
  have hends : h.ends = 0 := by
    rw [← Nat.le_zero, ← Nat.not_lt]
    exact fun he => Bool.noConfusion (hf.symm.trans (htold he).1)
  rw [hf] at hm
  have hm := hm.append_finish
  have he : h.step .finish = { h with queue := { h.queue with
      finished := true, items := h.queue.items ++ [.finish] } } := by
    show ({ h with queue := h.queue.finish.2 } : Handoff) = _
    rw [Queue.finish, if_neg (Bool.eq_false_iff.mp hf), if_neg (Bool.eq_false_iff.mp hc)]
  rw [he]
  exact {
    finished := by simp
    abandoned := by simp [k.abandoned]
    closed := by simp [k.closed]
    conserved := by
      rw [← k.conserved]
      simp [Queue.chunks]
    undiscarded := k.undiscarded
    empty := fun hc' => Bool.noConfusion (hc.symm.trans hc')
    marked := ⟨true, hm⟩
    live := fun _ _ => by
      rw [hends]
      exact ⟨hm, Nat.zero_le 1, fun he => absurd he (Nat.lt_irrefl 0)⟩ }

theorem abandon (k : Kept turns h) : Kept (turns ++ [.abandon]) (h.step .abandon) where
  finished := by simp [step, Queue.abandon, k.finished]
  abandoned := by simp [step, Queue.abandon]
  closed := by simp [step, Queue.abandon, k.closed]
  conserved := k.conserved
  undiscarded := k.undiscarded
  empty := k.empty
  marked := k.marked
  live := nofun

theorem drain (k : Kept turns h) : Kept (turns ++ [.drain]) (h.step .drain) where
  finished := by simp [step, Queue.drain, k.finished]
  abandoned := by simp [step, Queue.drain, k.abandoned]
  closed := by simp [step, Queue.drain]
  conserved := by
    show h.handed ++ (h.discarded ++ h.queue.chunks) ++ [] = h.accepted
    rw [← k.conserved, List.append_nil, List.append_assoc]
  undiscarded := nofun
  empty _ := rfl
  marked := ⟨false, rfl⟩
  live := nofun

theorem receive (k : Kept turns h) : Kept turns h.receive := by
  rcases hi : h.queue.items with _ | ⟨i, rest⟩
  · rw [receive_of_nil hi]
    split
    · rename_i hgone
      rw [Bool.or_eq_true] at hgone
      exact { k with
        live := fun hc ha => hgone.elim (fun h => Bool.noConfusion (ha.symm.trans h))
          fun h => Bool.noConfusion (hc.symm.trans h) }
    · exact k
  -- nothing waits in a closed queue, so nothing was discarded
  have hc : h.queue.closed = false := by
    rw [Bool.eq_false_iff]
    intro hc
    exact absurd (hi.symm.trans (k.empty hc)) (List.cons_ne_nil i rest)
  have hconserved := k.conserved
  obtain ⟨ends, hm⟩ := k.marked
  rw [Queue.chunks, hi, k.undiscarded hc] at hconserved
  rw [hi] at hm
  cases i with
  | chunk c =>
    rw [receive_of_chunk hi]
    exact { k with
      conserved := by
        rw [← hconserved, k.undiscarded hc]
        simp [Queue.chunks]
      empty := fun hc' => Bool.noConfusion (hc.symm.trans hc')
      marked := ⟨ends, hm⟩
      live := fun _ ha => by
        obtain ⟨hmark, hle, htold⟩ := k.live hc ha
        rw [hi] at hmark htold
        exact ⟨hmark, hle, fun he => absurd (htold he).2 (List.cons_ne_nil _ _)⟩ }
  | finish =>
    rw [receive_of_finish hi]
    exact { k with
      conserved := by
        rw [← hconserved, k.undiscarded hc]
        simp [Queue.chunks]
      empty := fun hc' => Bool.noConfusion (hc.symm.trans hc')
      marked := ⟨false, by rw [hm.2]; rfl⟩
      live := fun _ ha => by
        have hlive := k.live hc ha
        rw [hi] at hlive
        obtain ⟨⟨hmark, hrest⟩, -, -⟩ := hlive
        rw [Bool.and_eq_true, beq_iff_eq] at hmark
        refine ⟨?_, Nat.le_of_eq (congrArg (· + 1) hmark.2), fun _ => ⟨hmark.1, hrest⟩⟩
        rw [hrest]
        exact Bool.and_false _ }

theorem step (k : Kept turns h) (ht : h.queue.abandoned = true → t.byProducer = false) :
    Kept (turns ++ [t]) (h.step t) := by
  cases t with
  | push bytes => exact k.push (Bool.eq_false_iff.mpr fun ha => Bool.noConfusion (ht ha)) bytes
  | finish => exact k.finish (Bool.eq_false_iff.mpr fun ha => Bool.noConfusion (ht ha))
  | isFinished => exact k.concat nofun nofun nofun
  | abandon => exact k.abandon
  | take | tryTake => exact k.receive.concat nofun nofun nofun
  | drain => exact k.drain

end Kept

theorem orderly_concat {turns : List Turn} {t : Turn} :
    Orderly (turns ++ [t]) ↔ Orderly turns ∧ (.abandon ∈ turns → t.byProducer = false) := by
  unfold Orderly
  rw [List.pairwise_append]
  constructor
  · rintro ⟨ho, -, h⟩
    exact ⟨ho, fun ha => h .abandon ha t List.mem_cons_self rfl⟩
  · rintro ⟨ho, h⟩
    refine ⟨ho, List.pairwise_singleton .., fun first hf second hs he => ?_⟩
    rw [List.mem_singleton.mp hs]
    exact h (he ▸ hf)

theorem kept_run {turns : List Turn} (ho : Orderly turns) : Kept turns (run turns) := by
  induction turns using List.reverseRecOn with
  | nil => exact Kept.start
  | append_singleton turns t ih =>
    obtain ⟨ho, ht⟩ := orderly_concat.mp ho
    have k := ih ho
    rw [run_concat]
    exact k.step fun ha => ht (k.abandoned.mp ha)

/-! ## The end -/

/-- Nothing comes any more: the receiver closed the queue, or the producer went away and no chunk
waits. -/
def Over (turns : List Turn) : Prop :=
  .drain ∈ turns ∨ .abandon ∈ turns ∧ (run turns).queue.chunks = []

theorem chunks_receive (hn : h.queue.chunks = []) : h.receive.queue.chunks = [] := by
  rcases hi : h.queue.items with _ | ⟨i, rest⟩
  · rw [receive_of_nil hi]
    split <;> exact hn
  · unfold Queue.chunks at hn
    rw [hi] at hn
    cases i with
    | chunk c => cases hn
    | finish =>
      rw [receive_of_finish hi]
      exact hn

theorem over_concat (ho : Orderly (turns ++ [t])) (h : Over turns) : Over (turns ++ [t]) := by
  rcases h with hd | ⟨ha, hn⟩
  · exact .inl (List.mem_append_left _ hd)
  · have ht := (orderly_concat.mp ho).2 ha
    have ha := List.mem_append_left [t] ha
    cases t with
    | take | tryTake => exact .inr ⟨ha, (run_concat turns _).symm ▸ chunks_receive hn⟩
    | drain => exact .inl (List.mem_append_right _ List.mem_cons_self)
    | _ => cases ht

theorem over_append {later : List Turn} (ho : Orderly (turns ++ later)) (h : Over turns) :
    Over (turns ++ later) := by
  induction later using List.reverseRecOn with
  | nil => rwa [List.append_nil]
  | append_singleton later t ih =>
    rw [← List.append_assoc] at ho ⊢
    exact over_concat ho (ih (orderly_concat.mp ho).1)

namespace Kept

/-- Once nothing comes any more, the receiver is told the end. -/
theorem take_of_over (k : Kept turns (run turns)) (h : Over turns) :
    (run turns).queue.take.1 = some .finish := by
  rcases hi : (run turns).queue.items with _ | ⟨i, rest⟩
  · have hgone : ((run turns).queue.abandoned || (run turns).queue.closed) = true := by
      rw [Bool.or_eq_true]
      exact h.symm.imp (fun ha => k.abandoned.mpr ha.1) k.closed.mpr
    rw [Queue.take_of_nil hi, if_pos hgone]
  · rw [Queue.take_of_cons hi]
    cases i with
    | finish => rfl
    | chunk c =>
      rcases h with hd | ⟨-, hn⟩
      · exact absurd (hi.symm.trans (k.empty (k.closed.mpr hd))) (List.cons_ne_nil _ _)
      · rw [Queue.chunks, hi] at hn
        cases hn

/-- The receiver is told the end only when no chunk waits. -/
theorem take_finish (k : Kept turns h) (ht : h.queue.take.1 = some .finish) :
    h.queue.chunks = [] ∧ (.abandon ∉ turns → .drain ∉ turns → .finish ∈ turns) := by
  rcases hi : h.queue.items with _ | ⟨i, rest⟩
  · refine ⟨by rw [Queue.chunks, hi]; rfl, fun ha hd => ?_⟩
    rw [Queue.take_of_nil hi] at ht
    split at ht
    · rename_i hgone
      rw [Bool.or_eq_true, k.abandoned, k.closed] at hgone
      exact absurd hgone (not_or.mpr ⟨ha, hd⟩)
    · cases ht
  · rw [Queue.take_of_cons hi] at ht
    cases ht
    obtain ⟨ends, hm⟩ := k.marked
    rw [hi] at hm
    refine ⟨by rw [Queue.chunks, hi, hm.2]; rfl, fun ha hd => k.finished.mp ?_⟩
    have hlive := (k.live (Bool.eq_false_iff.mpr fun hc => hd (k.closed.mp hc))
      (Bool.eq_false_iff.mpr fun hg => ha (k.abandoned.mp hg))).1
    rw [hi] at hlive
    exact (Bool.and_eq_true _ _ ▸ hlive.1).1

/-- What is discarded is what was accepted and neither taken nor discarded before. -/
theorem drain_eq (k : Kept turns h) : h.queue.drain.1 =
    (h.accepted.drop (h.handed.length + h.discarded.length)).flatten.length := by
  have hdrop : h.accepted.drop (h.handed.length + h.discarded.length) = h.queue.chunks := by
    rw [← k.conserved, ← List.length_append, List.drop_left]
  rw [hdrop]
  exact h.queue.size_eq

end Kept

/-- A queue hands chunks over without loss and in order, and tells the end once. After any turns of
the two sides, until the producer goes away:

* a chunk is accepted exactly if it is not empty, the end was not offered and the queue is open, and
  the end is accepted exactly if it was not offered before;
* the chunks handed out, those discarded and those that wait are the accepted ones in order, and
  nothing is discarded before the queue is closed;
* the end is told only when no chunk waits, so to a receiver who did not close the queue only after
  all accepted chunks, and while the producer is there only if it was offered, at most once, with
  nothing after it;
* closing the queue discards the accepted chunks that were neither handed out nor discarded before;
* once the queue was closed, or the producer went away and no chunk waits, every taking tells the
  end. -/
theorem handed_over_in_order {turns later : List Turn} (ho : Orderly (turns ++ later)) :
    let h := run turns
    (∀ bytes, (h.queue.push bytes).1 = true ↔ bytes ≠ [] ∧ .finish ∉ turns ∧ .drain ∉ turns) ∧
    (h.queue.finish.1 = true ↔ .finish ∉ turns) ∧ (h.queue.finished = true ↔ .finish ∈ turns) ∧
    h.handed ++ h.discarded ++ h.queue.chunks = h.accepted ∧
    (.drain ∉ turns → h.discarded = []) ∧
    (h.queue.take.1 = some .finish → h.queue.chunks = [] ∧ (.drain ∉ turns →
      h.handed = h.accepted ∧ (.abandon ∉ turns → .finish ∈ turns))) ∧
    (.abandon ∉ turns → .drain ∉ turns →
      h.ends ≤ 1 ∧ (h.ends = 1 → h.queue.take = (none, h.queue))) ∧
    h.queue.drain.1 =
      (h.accepted.drop (h.handed.length + h.discarded.length)).flatten.length ∧
    (Over turns → (run (turns ++ later)).queue.take.1 = some .finish) := by
  intro h
  have k : Kept turns h := kept_run (List.pairwise_append.mp ho).1
  have hfinished : h.queue.finished = false ↔ .finish ∉ turns := by
    rw [← k.finished, Bool.eq_false_iff]
  have hclosed : h.queue.closed = false ↔ .drain ∉ turns := by
    rw [← k.closed, Bool.eq_false_iff]
  have habandoned : h.queue.abandoned = false ↔ .abandon ∉ turns := by
    rw [← k.abandoned, Bool.eq_false_iff]
  refine ⟨fun bytes => ?_, ?_, k.finished, k.conserved, fun hd => k.undiscarded (hclosed.mpr hd),
    fun ht => ?_, fun ha hd => ?_, k.drain_eq, fun hover => ?_⟩
  · rw [Queue.push_eq_true_iff, hfinished, hclosed]
  · rw [Queue.finish_eq_true_iff, hfinished]
  · obtain ⟨hn, hoffered⟩ := k.take_finish ht
    refine ⟨hn, fun hd => ⟨?_, fun ha => hoffered ha hd⟩⟩
    rw [← k.conserved, k.undiscarded (hclosed.mpr hd), hn, List.append_nil, List.append_nil]
  · obtain ⟨-, hle, htold⟩ := k.live (hclosed.mpr hd) (habandoned.mpr ha)
    refine ⟨hle, fun he => ?_⟩
    rw [Queue.take_of_nil (htold (he ▸ Nat.one_pos)).2, habandoned.mpr ha, hclosed.mpr hd]
    rfl
  · exact (kept_run ho).take_of_over (over_append ho hover)

/-- Two chunks with an empty one between them, of which one is taken before the queue is closed. -/
theorem handed_over_in_order_two :
    let turns : List Turn :=
      [.push [1, 2], .push [], .push [3], .finish, .push [4], .take, .drain, .abandon]
    let later : List Turn := [.take, .tryTake]
    Orderly (turns ++ later) ∧ (run turns).accepted = [[1, 2], [3]] ∧
      (run turns).handed = [[1, 2]] ∧ (run turns).discarded = [[3]] ∧
      (run (turns ++ later)).queue.take.1 = some .finish := by
  intro turns later
  have ho : Orderly (turns ++ later) := by decide
  obtain ⟨-, -, -, -, -, -, -, -, hend⟩ := handed_over_in_order ho
  exact ⟨ho, by decide, by decide, by decide, hend (.inl (by decide))⟩

/-- A queue that is closed a second time discards nothing, although a chunk that it accepted was not
handed out. -/
theorem closed_twice :
    let h := run [.push [1], .drain]
    h.accepted = [[1]] ∧ h.handed = [] ∧ h.queue.drain.1 = 0 ∧
      (h.accepted.drop h.handed.length).flatten.length = 1 := by
  decide

end Handoff

end ResultFlow
