import ResultFlow.Settings

/-!
# Options

What an option says, and the settings that options can lead to. An option is read first, with nothing
set, and what it says then goes into one place (`apply_eq`), so a refused option changes nothing.
Options are tried one after another. Whatever is tried, a stream asks for chunks in batches of ten
and has room for more than one batch (`stream_of_options`), and of the settings of an HTTP client
only the limits of time and the number of retries change, the latter within 32 bits
(`http_of_options`).
-/

namespace ResultFlow

theorem exists_of_bind_eq_ok {α β : Type} {x : Except Error α} {f : α → Except Error β} {b : β}
    (h : x >>= f = .ok b) : ∃ a, x = .ok a ∧ f a = .ok b := by
  cases x with
  | error e => cases h
  | ok a => exact ⟨a, rfl, h⟩

/-! ## What an option says -/

/-- What an accepted option says. -/
inductive Setting
  | fetchSize (rows : Nat)
  | pageTimeout (limit : Duration)
  | targetBuffer (bytes : Nat)
  | maxOutstanding (chunks : Int)
  | connectTimeout (limit : Duration)
  | readTimeout (limit : Duration)
  | maxRetries (retries : Nat)
  | logLevel (words : String)
  | logFile (path : String)

namespace Setting

/-- The option that says it. -/
def key : Setting → OptionKey
  | fetchSize _ => .fetchSize
  | pageTimeout _ => .pageTimeout
  | targetBuffer _ => .targetBuffer
  | maxOutstanding _ => .maxOutstanding
  | connectTimeout _ => .connectTimeout
  | readTimeout _ => .readTimeout
  | maxRetries _ => .maxRetries
  | logLevel _ => .logLevel
  | logFile _ => .logFile

/-- What the value of an option says, for streams with batches of that size. -/
def read (batch : Nat) (key : OptionKey) (value : String) : Except Error Setting :=
  match key with
  | .fetchSize => do return .fetchSize (← checkFetchSize (← Settings.integer key value))
  | .pageTimeout => do return .pageTimeout (← Settings.milliseconds key value)
  | .targetBuffer => do return .targetBuffer (← Settings.natural key value 0xFFFFFFFFFFFFFFFF)
  | .maxOutstanding => do
    let n ← Settings.integer key value
    if n ≤ batch then .error (.invalidOption key.name value) else return .maxOutstanding n
  | .connectTimeout => do return .connectTimeout (← Settings.milliseconds key value)
  | .readTimeout => do return .readTimeout (← Settings.milliseconds key value)
  | .maxRetries => do return .maxRetries (← Settings.natural key value 0xFFFFFFFF)
  | .logLevel => return .logLevel value
  | .logFile => return .logFile value

/-- What a named option says. -/
def ofText (batch : Nat) (name value : String) : Except Error Setting :=
  match OptionKey.ofName? name with
  | some key => read batch key value
  | none => .error (.unknownOption name)

variable {batch : Nat} {key : OptionKey} {name value : String} {x : Setting}

/-- An option says only what it is for. -/
theorem key_of_read (h : read batch key value = .ok x) : x.key = key := by
  cases key with
  | fetchSize =>
    obtain ⟨n, -, h⟩ := exists_of_bind_eq_ok h
    obtain ⟨size, -, h⟩ := exists_of_bind_eq_ok h
    cases h
    rfl
  | maxOutstanding =>
    obtain ⟨n, -, h⟩ := exists_of_bind_eq_ok h
    split at h
    · cases h
    · cases h
      rfl
  | pageTimeout | targetBuffer | connectTimeout | readTimeout | maxRetries =>
    obtain ⟨n, -, h⟩ := exists_of_bind_eq_ok h
    cases h
    rfl
  | logLevel | logFile =>
    cases h
    rfl

/-- A named option says what its name stands for. -/
theorem ofName?_of_ofText (h : ofText batch name value = .ok x) :
    OptionKey.ofName? name = some x.key := by
  unfold ofText at h
  split at h
  · rename_i key hk
    rw [hk, key_of_read h]
  · cases h

theorem name_of_ofText (h : ofText batch name value = .ok x) : x.key.name = name := by
  have hfound := List.find?_some (ofName?_of_ofText h)
  exact of_decide_eq_true hfound

theorem exists_of_ofText (h : ofText batch name value = .ok x) :
    ∃ key, read batch key value = .ok x := by
  unfold ofText at h
  split at h
  · exact ⟨_, h⟩
  · cases h

/-- The rows for a page are within the limits of the service. -/
theorem rows_of_read {rows : Nat} (h : read batch key value = .ok (.fetchSize rows)) :
    1 ≤ rows ∧ rows ≤ maxFetchSize := by
  cases key_of_read h
  obtain ⟨n, -, h⟩ := exists_of_bind_eq_ok h
  obtain ⟨size, hs, h⟩ := exists_of_bind_eq_ok h
  cases h
  unfold checkFetchSize at hs
  split at hs
  · cases hs
  · split at hs
    · cases hs
    · cases hs
      omega

/-- The limit of a stream leaves room for more than one batch. -/
theorem chunks_of_read {chunks : Int} (h : read batch key value = .ok (.maxOutstanding chunks)) :
    batch < chunks := by
  cases key_of_read h
  obtain ⟨n, -, h⟩ := exists_of_bind_eq_ok h
  split at h
  · cases h
  · cases h
    omega

/-- The number of retries has 32 bits. -/
theorem retries_of_read {retries : Nat} (h : read batch key value = .ok (.maxRetries retries)) :
    retries ≤ 0xFFFFFFFF := by
  cases key_of_read h
  obtain ⟨n, hn, h⟩ := exists_of_bind_eq_ok h
  cases h
  obtain ⟨m, -, hm⟩ := exists_of_bind_eq_ok hn
  split at hm
  · cases hm
    omega
  · cases hm

end Setting

namespace Settings

variable {key : OptionKey} {value : String} {x y : Setting}

/-! ## One place for each option -/

/-- The settings with one of them replaced. -/
def put (s : Settings) : Setting → Settings
  | .fetchSize rows => { s with cursor := { s.cursor with fetchSize := rows } }
  | .pageTimeout limit => { s with cursor := { s.cursor with pageTimeout := limit } }
  | .targetBuffer bytes => { s with stream := { s.stream with targetBuffer := bytes } }
  | .maxOutstanding chunks => { s with stream := { s.stream with maxOutstanding := chunks } }
  | .connectTimeout limit => { s with http := { s.http with connectTimeout := limit } }
  | .readTimeout limit => { s with http := { s.http with readTimeout := limit } }
  | .maxRetries retries => { s with http := { s.http with maxRetries := retries } }
  | .logLevel words => { s with log := { s.log with level := some words } }
  | .logFile path => { s with log := { s.log with file := some path } }

@[simp] theorem put_batch (s : Settings) (x : Setting) :
    (s.put x).stream.batch = s.stream.batch := by
  cases x <;> rfl

theorem put_put (s : Settings) (h : x.key = y.key) : (s.put x).put y = s.put y := by
  cases x <;> cases y <;> cases h <;> rfl

theorem put_comm (s : Settings) (h : x.key ≠ y.key) : (s.put x).put y = (s.put y).put x := by
  cases x <;> cases y <;> first | rfl | exact absurd rfl h

/-- What is read, if anything is, goes into its place. -/
theorem read_then_put {α : Type} (s : Settings) (r : Except Error α) (f : α → Setting) :
    (do let a ← r; modify fun s => s.put (f a) : Change Unit) s =
      match (do return f (← r) : Except Error Setting) with
      | .ok x => (.ok (), s.put x)
      | .error e => (.error e, s) := by
  cases r <;> rfl

/-- An option is read first, and then goes into its place. One that is refused leaves the settings as
they were. -/
theorem apply_eq (s : Settings) (key : OptionKey) (value : String) :
    apply key value s = match Setting.read s.stream.batch key value with
      | .ok x => (.ok (), s.put x)
      | .error e => (.error e, s) := by
  cases key with
  | fetchSize =>
    unfold apply Setting.read
    cases integer .fetchSize value with
    | error e => rfl
    | ok n => exact read_then_put s (checkFetchSize n) .fetchSize
  | maxOutstanding =>
    unfold apply Setting.read
    cases integer .maxOutstanding value with
    | error e => rfl
    | ok n =>
      -- both sides compare it with the batch of the same settings
      show (ite _ _ _ : Change Unit) s = match (ite _ _ _ : Except Error Setting) with
        | .ok x => _
        | .error e => _
      split <;> rfl
  | pageTimeout => exact read_then_put s (milliseconds .pageTimeout value) .pageTimeout
  | targetBuffer => exact read_then_put s (natural .targetBuffer value _) .targetBuffer
  | connectTimeout => exact read_then_put s (milliseconds .connectTimeout value) .connectTimeout
  | readTimeout => exact read_then_put s (milliseconds .readTimeout value) .readTimeout
  | maxRetries => exact read_then_put s (natural .maxRetries value _) .maxRetries
  | logLevel | logFile => rfl

theorem set_eq (s : Settings) (name value : String) :
    set name value s = match Setting.ofText s.stream.batch name value with
      | .ok x => (.ok (), s.put x)
      | .error e => (.error e, s) := by
  unfold set Setting.ofText
  cases OptionKey.ofName? name with
  | some key => exact apply_eq s key value
  | none => rfl

/-- The verdict on an option is that of its text. -/
theorem verdict_eq (s : Settings) (name value : String) :
    s.verdict name value = (Setting.ofText s.stream.batch name value).map fun _ => () := by
  unfold verdict
  rw [set_eq]
  cases Setting.ofText s.stream.batch name value <;> rfl

/-- What an option says goes into its place. -/
theorem tried_eq (s : Settings) (name value : String) {batch : Nat}
    (hb : s.stream.batch = batch) :
    s.tried name value = match Setting.ofText batch name value with
      | .ok x => s.put x
      | .error _ => s := by
  subst hb
  unfold tried
  rw [set_eq]
  cases Setting.ofText s.stream.batch name value <;> rfl

/-! ## What options can lead to -/

/-- The default settings after options were tried in turn. -/
def ofOptions (options : List (String × String)) : Settings :=
  options.foldl (fun s o => s.tried o.1 o.2) {}

/-- What holds by default, and is kept whatever a value says, holds after all options. -/
theorem ofOptions_induction {P : Settings → Prop} (default : P {})
    (put : ∀ {s key value x}, P s → Setting.read s.stream.batch key value = .ok x → P (s.put x))
    (options : List (String × String)) : P (ofOptions options) := by
  have hfold : ∀ s, P s → P (options.foldl (fun s o => s.tried o.1 o.2) s) := by
    induction options with
    | nil => exact fun s h => h
    | cons o options ih =>
      intro s h
      refine ih (s.tried o.1 o.2) ?_
      rw [s.tried_eq o.1 o.2 rfl]
      split
      · rename_i x hx
        obtain ⟨key, hx⟩ := Setting.exists_of_ofText hx
        exact put h hx
      · exact h
  exact hfold {} default

/-- Whatever options are tried, only the target and the limit of a stream change, and there is room
for more than one batch. -/
theorem stream_of_options (options : List (String × String)) :
    ∃ bytes, ∃ n : Int, 10 < n ∧
      (ofOptions options).stream = { targetBuffer := bytes, maxOutstanding := n } := by
  refine ofOptions_induction (P := fun s => ∃ bytes, ∃ n : Int, 10 < n ∧
    s.stream = { targetBuffer := bytes, maxOutstanding := n }) ⟨33554432, 1000, by decide, rfl⟩ ?_
    options
  rintro s key value x ⟨bytes, n, hn, hs⟩ hx
  cases x with
  | targetBuffer bytes' => exact ⟨bytes', n, hn, congrArg ({ · with targetBuffer := bytes' }) hs⟩
  | maxOutstanding n' =>
    have hroom := Setting.chunks_of_read hx
    rw [hs] at hroom
    exact ⟨bytes, n', hroom, congrArg ({ · with maxOutstanding := n' }) hs⟩
  | _ => exact ⟨bytes, n, hn, hs⟩

/-- Whatever options are tried, only the limits of time and the number of retries of an HTTP client
change, and that number has 32 bits. -/
theorem http_of_options (options : List (String × String)) :
    ∃ connect read, ∃ n ≤ 0xFFFFFFFF, (ofOptions options).http =
      { connectTimeout := connect, readTimeout := read, maxRetries := n } := by
  refine ofOptions_induction (P := fun s => ∃ connect read, ∃ n ≤ 0xFFFFFFFF, s.http =
    { connectTimeout := connect, readTimeout := read, maxRetries := n })
    ⟨.ofMillis 30000, .ofMillis 60000, 5, by decide, rfl⟩ ?_ options
  rintro s key value x ⟨connect, read, n, hn, hs⟩ hx
  cases x with
  | connectTimeout limit =>
    exact ⟨limit, read, n, hn, congrArg ({ · with connectTimeout := limit }) hs⟩
  | readTimeout limit => exact ⟨connect, limit, n, hn, congrArg ({ · with readTimeout := limit }) hs⟩
  | maxRetries m =>
    exact ⟨connect, read, m, Setting.retries_of_read hx, congrArg ({ · with maxRetries := m }) hs⟩
  | _ => exact ⟨connect, read, n, hn, hs⟩

/-- Whatever options are tried, the rows for a page stay within the limits of the service. -/
theorem fetchSize_of_options (options : List (String × String)) :
    1 ≤ (ofOptions options).cursor.fetchSize ∧
      (ofOptions options).cursor.fetchSize ≤ maxFetchSize := by
  refine ofOptions_induction (P := fun s => 1 ≤ s.cursor.fetchSize ∧
    s.cursor.fetchSize ≤ maxFetchSize) (by decide) ?_ options
  intro s key value x hs hx
  cases x with
  | fetchSize rows => exact Setting.rows_of_read hx
  | _ => exact hs

end Settings

end ResultFlow
