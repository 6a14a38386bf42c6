import ResultFlow.Log.Event
import ResultFlow.Settings

/-!
# Log filters

A filter is a list of directives, each a level for the sources whose name begins with a target, or
for all sources. The directive with the longest target that fits an event decides about it. Filters
are written as directives separated by commas, such as `warn,athena_results=debug`.
-/

namespace ResultFlow.Log

/-- One line of a log before it is filtered. -/
structure Record where
  level : Level
  target : String
  text : String

/-- The record of an event. -/
def Event.record (e : Event) : Record := ⟨e.level, e.source.target, e.text⟩

/-- The line that a record makes. -/
def Record.line (r : Record) : String := r.level.name ++ " " ++ r.text

/-- The levels up to `rank` for the sources of a target; rank 0 lets nothing pass. -/
structure Directive where
  target : Option String
  rank : Nat

/-- The rank of a level by its name, in any case, or by its number. -/
def rankOfName? (name : String) : Option Nat :=
  match Text.lower name with
  | "off" | "0" => some 0
  | "error" | "1" => some 1
  | "warn" | "2" => some 2
  | "info" | "3" => some 3
  | "debug" | "4" => some 4
  | "trace" | "5" => some 5
  | _ => none

/-- A character of a target. -/
def isTargetChar (c : Char) : Bool :=
  c.isAlphanum || c = '_' || c = ':' || c = '-' || 0x80 ≤ c.toNat

namespace Directive

/-- The directive of a text: a level, a target, or a target and a level. A target without a level
stands for all levels. -/
def ofText? (s : String) : Option Directive :=
  match rankOfName? s with
  | some rank => some ⟨none, rank⟩
  | none =>
    let target := s.toList.takeWhile (· ≠ '=')
    let rank? := match s.toList.dropWhile (· ≠ '=') with
      | [] | ['='] => some 5
      | _ :: level => rankOfName? (String.ofList level)
    if target ≠ [] ∧ target.all isTargetChar then
      let name := String.ofList target
      rank?.map fun rank => ⟨if (rankOfName? name).isSome then none else some name, rank⟩
    else none

/-- Whether the directive is about the sources of a name. -/
def concerns (d : Directive) (name : String) : Bool :=
  match d.target with
  | none => true
  | some t => t.toList.isPrefixOf name.toList

/-- The length by which directives are compared; one for all sources comes last. -/
def weight (d : Directive) : Nat :=
  match d.target with
  | none => 0
  | some t => t.utf8ByteSize + 1

end Directive

/-- Directives, of which later ones replace earlier ones for the same target. -/
structure Filter where
  directives : List Directive

namespace Filter

/-- The directives as written, between commas. -/
def parts (s : String) : List String :=
  (s.splitOn ",").filter (· ≠ "")

/-- The filter of the directives that are understood; without any, errors pass. -/
def ofDirectives (ds : List Directive) : Filter :=
  ⟨if ds.isEmpty then [⟨none, 1⟩] else ds⟩

/-- The filter of a text in which every directive is understood. -/
def read? (s : String) : Option Filter :=
  ((parts s).mapM Directive.ofText?).map ofDirectives

/-- The filter of a text, without the directives that are not understood. -/
def readLeniently (s : String) : Filter :=
  ofDirectives ((parts s).filterMap Directive.ofText?)

/-- The heavier of two directives, the later one when they weigh the same. -/
def heavier (best : Option Directive) (d : Directive) : Option Directive :=
  match best with
  | none => some d
  | some b => if b.weight ≤ d.weight then some d else some b

/-- Whether a record passes. -/
def passes (f : Filter) (r : Record) : Bool :=
  match (f.directives.filter (·.concerns r.target)).foldl heavier none with
  | none => false
  | some d => r.level.rank ≤ d.rank

end Filter

/-! ## Where the log goes -/

/-- The name under which all sources of the library fall. -/
def libraryTarget : String := "athena_results"

/-- The filter of the settings; `none` when logging is off. Without a level in the settings the
directives of the environment hold, and without any that are understood, warnings pass. -/
def filterOf (settings : LogSettings) (environment : Option String) : Option Filter :=
  match settings.level with
  | some level =>
    if Text.sameIgnoringCase level "off" then none
    else some (Filter.readLeniently (libraryTarget ++ "=" ++ Text.lower level))
  | none =>
    some ((environment.bind Filter.read?).getD (Filter.readLeniently (libraryTarget ++ "=warn")))

/-- Where records go. -/
inductive Sink
  | nowhere
  | standardError (filter : Filter)
  /-- To the end of a file, which is made if it does not exist. -/
  | file (path : String) (filter : Filter)
  /-- Nowhere, because the file could not be opened. -/
  | unopened (path : String)

/-- The sink of the settings, given which files can be opened. -/
def Sink.ofSettings (settings : LogSettings) (environment : Option String)
    (canOpen : String → Bool) : Sink :=
  match filterOf settings environment, settings.file with
  | none, _ => .nowhere
  | some f, none => .standardError f
  | some f, some path => if canOpen path then .file path f else .unopened path

/-- The sink that holds after an attempt to install one: the first attempt alone has an effect. -/
def Sink.install (installed : Option Sink) (new : Sink) : Sink := installed.getD new

/-- The lines that a sink receives of some records. -/
def Sink.lines (sink : Sink) (records : List Record) : List String :=
  match sink with
  | .nowhere | .unopened _ => []
  | .standardError f | .file _ f => (records.filter f.passes).map Record.line

end ResultFlow.Log
