import Mathlib.Data.List.Nodup
import Mathlib.Data.List.Perm.Basic
import ResultFlow.Proofs.Options

/-!
# The order of options

An option is read before anything is set. Whether it is accepted, and what it then says, depends on
its text and on the batch of the stream, which no option changes (`Settings.apply_eq`). What it says
goes into one place, and different options have different places. So the verdict on an option does
not depend on the options before it (`verdict_tried`), options with different names may change
places (`tried_comm`, `after_perm`), and an accepted option undoes every other of its name
(`tried_again`).
-/

namespace ResultFlow

namespace Settings

variable {s : Settings} {name name' value value' : String} {options options' : List (String × String)}

/-! ## One option after another -/

/-- The settings after options were tried in turn. -/
def after (s : Settings) (options : List (String × String)) : Settings :=
  options.foldl (fun s o => s.tried o.1 o.2) s

/-- Every option is accepted when its turn comes. -/
def AcceptsAll (s : Settings) (options : List (String × String)) : Prop :=
  ∀ before o rest, options = before ++ o :: rest → (s.after before).verdict o.1 o.2 = .ok ()

/-- A refused option changes nothing. -/
theorem tried_of_error {e : Error} (h : s.verdict name value = .error e) :
    s.tried name value = s := by
  rw [verdict_eq] at h
  rw [tried_eq s name value rfl]
  cases hx : Setting.ofText s.stream.batch name value with
  | error e' => rfl
  | ok x =>
    rw [hx] at h
    cases h

/-- An accepted option changes only what its name stands for. -/
theorem tried_of_ok (h : s.verdict name value = .ok ()) :
    ∃ x : Setting, x.key.name = name ∧ s.tried name value = s.put x := by
  rw [verdict_eq] at h
  rw [tried_eq s name value rfl]
  cases hx : Setting.ofText s.stream.batch name value with
  | error e =>
    rw [hx] at h
    cases h
  | ok x => exact ⟨x, Setting.name_of_ofText hx, rfl⟩

@[simp] theorem tried_batch (s : Settings) (name value : String) :
    (s.tried name value).stream.batch = s.stream.batch := by
  rw [s.tried_eq name value rfl]
  split
  · exact s.put_batch _
  · rfl

/-- The verdict on an option does not depend on the options before it. -/
theorem verdict_tried (s : Settings) (name value name' value' : String) :
    (s.tried name value).verdict name' value' = s.verdict name' value' := by
  rw [verdict_eq, verdict_eq, tried_batch]

/-- Options with different names may change places. -/
theorem tried_comm (s : Settings) (hn : name ≠ name') :
    (s.tried name value).tried name' value' = (s.tried name' value').tried name value := by
  rw [tried_eq _ name' value' (s.tried_batch name value),
    tried_eq _ name value (s.tried_batch name' value'), s.tried_eq name value rfl,
    s.tried_eq name' value' rfl]
  cases hx : Setting.ofText s.stream.batch name value with
  | error e => rfl
  | ok x =>
    cases hy : Setting.ofText s.stream.batch name' value' with
    | error e => rfl
    | ok y =>
      refine s.put_comm fun hk => hn ?_
      rw [← Setting.name_of_ofText hx, ← Setting.name_of_ofText hy, hk]

/-- An accepted option undoes another one of its name. -/
theorem tried_again (s : Settings) (hv : s.verdict name value' = .ok ()) :
    (s.tried name value).tried name value' = s.tried name value' := by
  rw [tried_eq _ name value' (s.tried_batch name value), s.tried_eq name value rfl,
    s.tried_eq name value' rfl]
  rw [verdict_eq] at hv
  cases hy : Setting.ofText s.stream.batch name value' with
  | error e =>
    rw [hy] at hv
    cases hv
  | ok y =>
    cases hx : Setting.ofText s.stream.batch name value with
    | error e => rfl
    | ok x =>
      have hk := (Setting.ofName?_of_ofText hx).symm.trans (Setting.ofName?_of_ofText hy)
      exact s.put_put (Option.some.inj hk)

/-- Options with different names lead to the same settings in every order. -/
theorem after_perm (s : Settings) (hp : options.Perm options')
    (hd : (options.map (·.1)).Nodup) : s.after options = s.after options' := by
  refine hp.foldl_eq' (fun o ho o' ho' t => ?_) s
  by_cases hn : o.1 = o'.1
  · rw [List.inj_on_of_nodup_map hd ho ho' hn]
  · exact t.tried_comm hn

/-! ## All options or none -/

theorem acceptsAll_cons {o : String × String} :
    s.AcceptsAll (o :: options) ↔
      s.verdict o.1 o.2 = .ok () ∧ (s.tried o.1 o.2).AcceptsAll options := by
  constructor
  · intro h
    refine ⟨h [] o options rfl, fun before o' rest he => ?_⟩
    exact h (o :: before) o' rest (by rw [he]; rfl)
  · rintro ⟨ho, h⟩ before o' rest he
    cases before with
    | nil =>
      cases he
      exact ho
    | cons first before =>
      cases he
      exact h before o' rest rfl

theorem acceptsAll_nil : s.AcceptsAll [] :=
  fun _ _ _ he => absurd he (List.append_ne_nil_of_right_ne_nil _ (List.cons_ne_nil _ _)).symm

theorem setAll_of_error {o : String × String} {e : Error} (h : s.verdict o.1 o.2 = .error e) :
    s.setAll (o :: options) = .error e := by
  unfold setAll
  rw [h]
  rfl

theorem setAll_of_ok {o : String × String} (h : s.verdict o.1 o.2 = .ok ()) :
    s.setAll (o :: options) = (s.tried o.1 o.2).setAll options := by
  rw [setAll, h]
  rfl

/-- A list of options is accepted exactly if each of them is in its turn. -/
theorem setAll_eq_ok_iff {c : Settings} :
    s.setAll options = .ok c ↔ s.AcceptsAll options ∧ c = s.after options := by
  induction options generalizing s with
  | nil =>
    refine ⟨fun h => ?_, ?_⟩
    · cases h
      exact ⟨acceptsAll_nil, rfl⟩
    · rintro ⟨-, rfl⟩
      rfl
  | cons o options ih =>
    rw [acceptsAll_cons]
    cases hv : s.verdict o.1 o.2 with
    | error e =>
      rw [setAll_of_error hv]
      exact ⟨nofun, fun h => nomatch h.1.1⟩
    | ok u =>
      rw [setAll_of_ok hv, ih]
      exact ⟨fun h => ⟨⟨rfl, h.1⟩, h.2⟩, fun h => ⟨h.1.2, h.2⟩⟩

/-- A list of options fails with the failure of the first one that is refused. -/
theorem setAll_eq_error_iff {e : Error} :
    s.setAll options = .error e ↔ ∃ before o rest, options = before ++ o :: rest ∧
      s.AcceptsAll before ∧ (s.after before).verdict o.1 o.2 = .error e := by
  induction options generalizing s with
  | nil =>
    refine ⟨nofun, ?_⟩
    rintro ⟨before, o, rest, he, -⟩
    exact absurd he (List.append_ne_nil_of_right_ne_nil _ (List.cons_ne_nil _ _)).symm
  | cons o options ih =>
    cases hv : s.verdict o.1 o.2 with
    | error e' =>
      rw [setAll_of_error hv]
      constructor
      · intro h
        cases h
        exact ⟨[], o, options, rfl, acceptsAll_nil, hv⟩
      · rintro ⟨before, o', rest, he, ha, hv'⟩
        cases before with
        | nil =>
          cases he
          cases hv.symm.trans hv'
          rfl
        | cons first before =>
          cases he
          rw [(acceptsAll_cons.mp ha).1] at hv
          cases hv
    | ok u =>
      rw [setAll_of_ok hv, ih]
      constructor
      · rintro ⟨before, o', rest, rfl, ha, hv'⟩
        exact ⟨o :: before, o', rest, rfl, acceptsAll_cons.mpr ⟨hv, ha⟩, hv'⟩
      · rintro ⟨before, o', rest, he, ha, hv'⟩
        cases before with
        | nil =>
          cases he
          exact nomatch hv.symm.trans hv'
        | cons first before =>
          cases he
          exact ⟨before, o', rest, rfl, (acceptsAll_cons.mp ha).2, hv'⟩

/-- Options are independent of each other and take effect as a whole. A refused option changes
nothing, and an accepted one only what its name stands for. Two options with different names may
change places: the settings and both verdicts stay the same. An accepted option undoes another one
of its name. So options with different names lead to the same settings in every order. A list of
options is accepted exactly if each of them is in its turn, with the settings that they lead to, and
fails like the first one that is refused. Whatever options were tried, the rows for a page are within
the limits of the service, and a stream has room for more than one batch. -/
theorem options_independent :
    (∀ (s s' : Settings) (name value : String),
      (∀ e, set name value s = (.error e, s') → s' = s) ∧
      (set name value s = (.ok (), s') → ∃ x : Setting, x.key.name = name ∧ s' = s.put x)) ∧
    (∀ (s : Settings) (name value name' value' : String), name ≠ name' →
      (s.tried name value).tried name' value' = (s.tried name' value').tried name value ∧
      (s.tried name value).verdict name' value' = s.verdict name' value' ∧
      (s.tried name' value').verdict name value = s.verdict name value) ∧
    (∀ (s : Settings) (name value value' : String), s.verdict name value' = .ok () →
      (s.tried name value).tried name value' = s.tried name value' ∧
      (s.tried name value).verdict name value' = .ok ()) ∧
    (∀ (s : Settings) (options options' : List (String × String)), options.Perm options' →
      (options.map (·.1)).Nodup → s.after options = s.after options') ∧
    (∀ (s : Settings) (options : List (String × String)),
      (∀ c, s.setAll options = .ok c ↔ s.AcceptsAll options ∧ c = s.after options) ∧
      ∀ e, s.setAll options = .error e ↔ ∃ before o rest, options = before ++ o :: rest ∧
        s.AcceptsAll before ∧ (s.after before).verdict o.1 o.2 = .error e) ∧
    ∀ options : List (String × String),
      1 ≤ (ofOptions options).cursor.fetchSize ∧ (ofOptions options).cursor.fetchSize ≤ 1000 ∧
      ((ofOptions options).stream.batch : Int) < (ofOptions options).stream.maxOutstanding := by
  refine ⟨fun s s' name value => ⟨fun e h => ?_, fun h => ?_⟩,
    fun s name value name' value' hn => ⟨s.tried_comm hn, s.verdict_tried .., s.verdict_tried ..⟩,
    fun s name value value' hv => ⟨s.tried_again hv, (s.verdict_tried ..).trans hv⟩,
    fun s options options' hp hd => s.after_perm hp hd,
    fun s options => ⟨fun c => setAll_eq_ok_iff, fun e => setAll_eq_error_iff⟩, fun options => ?_⟩
  · have hv : s.verdict name value = .error e := congrArg Prod.fst h
    exact (congrArg Prod.snd h).symm.trans (tried_of_error hv)
  · have hv : s.verdict name value = .ok () := congrArg Prod.fst h
    obtain ⟨x, hx, ht⟩ := tried_of_ok hv
    exact ⟨x, hx, (congrArg Prod.snd h).symm.trans ht⟩
  · obtain ⟨hlo, hhi⟩ := fetchSize_of_options options
    obtain ⟨bytes, n, hn, hs⟩ := stream_of_options options
    refine ⟨hlo, hhi, ?_⟩
    rw [hs]
    exact hn

/-- Three options and their reverse lead to the same settings. One of them is unknown, so that they
are refused as a list. -/
theorem options_independent_three :
    let options := [("athena.fetch_size", " 99"), ("athena.retries", "2"),
      ("athena.log_level", "debug")]
    (options.map (·.1)).Nodup ∧
      ({} : Settings).after options = ({} : Settings).after options.reverse ∧
      (({} : Settings).after options.reverse).cursor.fetchSize = 99 ∧
      ({} : Settings).setAll options = .error (.unknownOption "athena.retries") := by
  intro options
  have hd : (options.map (·.1)).Nodup := by decide
  refine ⟨hd, ?_, by decide +kernel, rfl⟩
  exact options_independent.2.2.2.1 {} options options.reverse options.reverse_perm.symm hd

end Settings

end ResultFlow
