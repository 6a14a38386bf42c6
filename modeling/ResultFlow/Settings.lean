import ResultFlow.Error
import ResultFlow.Number.Decimal
import ResultFlow.Text

/-!
# Settings

The settings of cursors, object streams, the HTTP clients and the log, and the text options that
change them one at a time: `Settings.set` applies one option, with a verdict on it and the settings
that it leaves behind, and `Settings.setAll` a list of them up to the first that is refused.
-/

namespace ResultFlow

/-- The greatest number of rows that the service puts on a page. -/
def maxFetchSize : Nat := 1000

/-- Settings of a cursor: the rows asked for per page, and the time allowed for a page. -/
structure CursorSettings where
  fetchSize : Nat := maxFetchSize
  pageTimeout : Duration := .ofMillis 60000

/-- Settings of the flow control of a stream. -/
structure StreamSettings where
  /-- Bytes buffered ahead of the reader. -/
  targetBuffer : Nat := 33554432
  /-- Chunks asked for at a time. -/
  batch : Nat := 10
  /-- The chunks asked for and not yet delivered stay below this. -/
  maxOutstanding : Int := 1000
  /-- The weight of the newest chunk in the mean chunk size. -/
  weight : Float32 := 0.2
  /-- The mean chunk size that is assumed before any chunk arrives. -/
  initialMean : Float32 := 8192

/-- Settings of the HTTP clients. -/
structure HttpSettings where
  connectTimeout : Duration := .ofMillis 30000
  /-- The longest pause between two reads of an answer. -/
  readTimeout : Duration := .ofMillis 60000
  /-- Attempts after the first. -/
  maxRetries : Nat := 5
  /-- The pause before the first repeated attempt; it doubles from one to the next. -/
  retryDelay : Duration := .ofMillis 1500
  maxConnections : Nat := 100
  userAgent : String := "athena-results/0.1.0"

/-- Settings of the log: the level in words, and the file that it goes to. -/
structure LogSettings where
  level : Option String := none
  file : Option String := none

/-- All settings of a client. -/
structure Settings where
  cursor : CursorSettings := {}
  stream : StreamSettings := {}
  http : HttpSettings := {}
  log : LogSettings := {}

/-- The fetch size, if it is one that the service accepts. -/
def checkFetchSize (n : Int) : Except Error Nat :=
  if n > maxFetchSize then .error (.fetchSizeTooLarge n maxFetchSize)
  else if n < 1 then .error (.fetchSizeNotPositive n)
  else .ok n.toNat

/-- What an option sets. -/
inductive OptionKey
  | fetchSize
  | pageTimeout
  | targetBuffer
  | maxOutstanding
  | connectTimeout
  | readTimeout
  | maxRetries
  | logLevel
  | logFile
  deriving DecidableEq

namespace OptionKey

/-- The name of an option. -/
def name : OptionKey → String
  | fetchSize => "athena.fetch_size"
  | pageTimeout => "athena.api_call_timeout_ms"
  | targetBuffer => "athena.stream.target_buffer_bytes"
  | maxOutstanding => "athena.stream.max_outstanding_requests"
  | connectTimeout => "athena.http.connect_timeout_ms"
  | readTimeout => "athena.http.read_timeout_ms"
  | maxRetries => "athena.http.max_retries"
  | logLevel => "athena.log_level"
  | logFile => "athena.log_file"

def all : List OptionKey :=
  [fetchSize, pageTimeout, targetBuffer, maxOutstanding, connectTimeout, readTimeout, maxRetries,
    logLevel, logFile]

/-- The option of a name. -/
def ofName? (name : String) : Option OptionKey := all.find? (·.name = name)

end OptionKey

namespace Settings

/-- The 64-bit number written by the value of an option, blanks around it aside. -/
def integer (key : OptionKey) (value : String) : Except Error Int :=
  match Integer.readWord? 64 (Text.trim value.toList) with
  | some n => .ok n
  | none => .error (.invalidOption key.name value)

/-- The number written by the value of an option, if it lies between 0 and `limit`. -/
def natural (key : OptionKey) (value : String) (limit : Nat) : Except Error Nat := do
  let n ← integer key value
  if 0 ≤ n ∧ n ≤ limit then .ok n.toNat else .error (.invalidOption key.name value)

/-- The milliseconds written by the value of an option. -/
def milliseconds (key : OptionKey) (value : String) : Except Error Duration := do
  return .ofMillis (← natural key value 0xFFFFFFFFFFFFFFFF)

/-- A change of the settings, which may be refused on the way and leaves settings behind either way. -/
abbrev Change := ExceptT Error (StateM Settings)

/-- Changes the setting of an option. -/
def apply (key : OptionKey) (value : String) : Change Unit :=
  match key with
  | .fetchSize => do
    let n ← integer key value
    let size ← checkFetchSize n
    modify fun s => { s with cursor := { s.cursor with fetchSize := size } }
  | .pageTimeout => do
    let limit ← milliseconds key value
    modify fun s => { s with cursor := { s.cursor with pageTimeout := limit } }
  | .targetBuffer => do
    let bytes ← natural key value 0xFFFFFFFFFFFFFFFF
    modify fun s => { s with stream := { s.stream with targetBuffer := bytes } }
  | .maxOutstanding => do
    let n ← integer key value
    if n ≤ (← get).stream.batch then throw (.invalidOption key.name value)
    modify fun s => { s with stream := { s.stream with maxOutstanding := n } }
  | .connectTimeout => do
    let limit ← milliseconds key value
    modify fun s => { s with http := { s.http with connectTimeout := limit } }
  | .readTimeout => do
    let limit ← milliseconds key value
    modify fun s => { s with http := { s.http with readTimeout := limit } }
  | .maxRetries => do
    let n ← natural key value 0xFFFFFFFF
    modify fun s => { s with http := { s.http with maxRetries := n } }
  | .logLevel => modify fun s => { s with log := { s.log with level := some value } }
  | .logFile => modify fun s => { s with log := { s.log with file := some value } }

/-- Changes the setting of the option of that name. -/
def set (name value : String) : Change Unit :=
  match OptionKey.ofName? name with
  | some key => apply key value
  | none => throw (.unknownOption name)

/-- Whether an option is accepted, or why not. -/
def verdict (s : Settings) (name value : String) : Except Error Unit := (set name value s).1

/-- The settings that an option leaves behind, accepted or not. -/
def tried (s : Settings) (name value : String) : Settings := (set name value s).2

/-- The settings after a list of options, which ends with the first that is refused. -/
def setAll (s : Settings) : List (String × String) → Except Error Settings
  | [] => .ok s
  | (name, value) :: rest => do
    s.verdict name value
    (s.tried name value).setAll rest

end Settings

end ResultFlow
