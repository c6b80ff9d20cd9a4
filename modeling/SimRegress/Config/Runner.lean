import SimRegress.Toml.Document
import SimRegress.Toml.Snippet
import SimRegress.Job.Filter
import SimRegress.Comparison.Tolerance
import SimRegress.Text.Escaped

/-!
The settings of a run, read from a TOML file.

Every setting has a default, so an empty file is a valid one. The keys are read in key order and
the first value of the wrong type fails the file, pointing at that value: a count must be a
non-negative integer below `2^64`, a float may also be given as an integer below `2^64` in size,
and the filter is a table, or an array whose first three items are its lists in order. Before
its type, a value read is checked for an integer that needs more than 128 bits and for a float
too large for any float; the values of unknown keys are not used but are checked so, through
all their arrays and tables. A file that reads must still have valid tolerances and a
non-negative time limit, NaN failing both checks.
-/

namespace SimRegress

open Toml

/-- The settings of a run. -/
structure RunnerConfig where
  /-- The language of the console texts. -/
  language : String := "en"
  /-- The directory of the simulation tools; empty means they are looked up on the search path. -/
  binDir : String := ""
  /-- The number of jobs run at once; zero means one per processor. -/
  jobs : Nat := 0
  /-- The time limit of every command in minutes; zero means none. -/
  maxExecutionTime : Float := 30.0
  atol : Float := 2e-5
  rtol : Float := 2e-5
  /-- The number of failures that get a diff artifact; zero means all. -/
  maxCompareFailure : Nat := 200
  reportDir : String := "runexamples_report"
  /-- A command line put before every simulation. -/
  prefixSimulation : String := ""
  /-- The file name extension of the tools. -/
  exeExt : String := ""
  disableRun : Bool := false
  disableMakeClean : Bool := false
  disableCompare : Bool := false
  printToConsole : Bool := false
  inspectCoreDumps : Bool := true
  datasetSuffix : String := ".dataset.json"
  filter : JobFilter := {}

/-- A float in a message about a value: the shortest positional digits, with `.0` when they
have no point. -/
def floatWithPoint (x : Float) : String :=
  let s := messageStyle.render x
  if x.isFinite && !s.toList.contains '.' then s ++ ".0" else s

/-- The widest integers a message names without saying their width. -/
def plainIntegerRange (n : Int) : Bool := -(Int.pow 2 63) ≤ n && n < Int.pow 2 64

/-- An integer in a message about a value; one beyond 64 bits names its width. -/
def integerText (n : Int) : String :=
  let digits := (if n < 0 then "-" else "") ++ Decimal.digitsText n.natAbs
  "integer `" ++ digits ++ "`" ++
    (if plainIntegerRange n then "" else if n < Int.pow 2 127 then " as i128" else " as u128")

/-- What a value is, in a message about its type. -/
def Toml.Value.unexpected : Toml.Value → String
  | .string s => "string " ++ Text.quoted s
  | .integer n => integerText n
  | .malformedInteger => "integer"
  | .float x => "floating point `" ++ floatWithPoint x ++ "`"
  | .hugeFloat => "floating point"
  | .boolean b => "boolean `" ++ (if b then "true" else "false") ++ "`"
  | .datetime _ => "map"
  | .array _ | .tables _ => "sequence"
  | .table _ _ => "map"

/-- The integers that a setting can be offered: those of 128 bits, signed or not. -/
def wideIntegerRange (n : Int) : Bool := -(Int.pow 2 127) ≤ n && n < Int.pow 2 128

/-- The fault of a value that no setting can be offered: an integer beyond 128 bits, or a float
beyond any float. -/
def Toml.Value.overflow? (v : Toml.Value) (span : Span) : Option Toml.Error :=
  match v with
  | .integer n => if wideIntegerRange n then none else some ⟨"integer number overflowed", some span⟩
  | .malformedInteger => some ⟨"integer number overflowed", some span⟩
  | .hugeFloat => some ⟨"floating-point number overflowed", some span⟩
  | _ => none

mutual

/-- The first fault of a value and of everything it holds, tables read in key order. -/
def Toml.Value.deepOverflow? : Toml.Value → Span → Option Toml.Error
  | .array items, _ => itemsOverflow? items
  | .tables items, _ => itemsOverflow? items
  | .table _ es, _ => (entriesOverflow? es).map (·.2)
  | v, span => v.overflow? span

/-- The first fault of some items in order. -/
def itemsOverflow? : List (Toml.Value × Span) → Option Toml.Error
  | [] => none
  | (v, span) :: rest =>
    match v.deepOverflow? span with
    | some e => some e
    | none => itemsOverflow? rest

/-- The fault of the least key whose value has a fault, with that key. -/
def entriesOverflow? : List Entry → Option (String × Toml.Error)
  | [] => none
  | (k, _, v, span) :: rest =>
    match (v.deepOverflow? span).map (k, ·), entriesOverflow? rest with
    | some a, some b => some (if b.1 < a.1 then b else a)
    | some a, none => some a
    | none, b => b

end

/-- Reads a value that a setting is offered, refusing an integer beyond 128 bits and a float
beyond any float first. -/
def offer (read : Toml.Value → Span → Except Toml.Error α) (v : Toml.Value) (span : Span) :
    Except Toml.Error α :=
  match v.overflow? span with
  | some e => .error e
  | none => read v span

/-- Passes over the value of an unknown key, refusing it only for a fault of something it
holds. -/
def skipUnknown (x : α) (v : Toml.Value) (span : Span) : Except Toml.Error α :=
  match v.deepOverflow? span with
  | some e => .error e
  | none => .ok x

def wrongType (v : Toml.Value) (span : Span) (expecting : String) : Toml.Error :=
  ⟨"invalid type: " ++ v.unexpected ++ ", expected " ++ expecting, some span⟩

/-- Reads a float; an integer below `2^64` in size is taken as its nearest float. -/
def floatSetting (v : Toml.Value) (span : Span) : Except Toml.Error Float :=
  match v with
  | .float x => .ok x
  | .integer n =>
    if plainIntegerRange n then .ok (Float.ofInt n) else .error (wrongType v span "f64")
  | v => .error (wrongType v span "f64")

/-- Reads a count: a non-negative integer below `2^64`. -/
def countSetting (v : Toml.Value) (span : Span) : Except Toml.Error Nat :=
  match v with
  | .integer n =>
    if 0 ≤ n && n < Int.pow 2 64 then .ok n.toNat
    else if plainIntegerRange n then
      .error ⟨"invalid value: " ++ integerText n ++ ", expected usize", some span⟩
    else .error (wrongType v span "usize")
  | v => .error (wrongType v span "usize")

/-- Reads a string; `expecting` names what was wanted. -/
def stringSetting (expecting : String) (v : Toml.Value) (span : Span) : Except Toml.Error String :=
  match v with
  | .string s => .ok s
  | v => .error (wrongType v span expecting)

def boolSetting (v : Toml.Value) (span : Span) : Except Toml.Error Bool :=
  match v with
  | .boolean b => .ok b
  | v => .error (wrongType v span "a boolean")

def stringsSetting (v : Toml.Value) (span : Span) : Except Toml.Error (List String) :=
  match v with
  | .array items | .tables items => items.mapM fun (x, s) => offer (stringSetting "a string") x s
  | v => .error (wrongType v span "a sequence")

def JobFilter.setting (f : JobFilter) (key : String) (v : Toml.Value) (span : Span) :
    Except Toml.Error JobFilter :=
  match key with
  | "labels" => do pure { f with labels := ← offer stringsSetting v span }
  | "exclude_labels" => do pure { f with excludeLabels := ← offer stringsSetting v span }
  | "kinds" => do pure { f with kinds := ← offer stringsSetting v span }
  | _ => skipUnknown f v span

/-- The names of the filter's keys, in the order an array gives them. -/
def filterKeys : List String := ["labels", "exclude_labels", "kinds"]

/-- Reads the filter: a table, or an array whose first items are its lists in order; the items
after them are not read. A date or time reads as the default filter. -/
def filterSetting (v : Toml.Value) (span : Span) : Except Toml.Error JobFilter :=
  match v with
  | .table _ es => (sortedEntries es).foldlM (fun f (k, _, x, s) => f.setting k x s) {}
  | .array items | .tables items =>
    (filterKeys.zip items).foldlM (fun f (k, x, s) => f.setting k x s) {}
  | .datetime _ => .ok {}
  | v => .error (wrongType v span "struct FilterConfig")

def RunnerConfig.setting (c : RunnerConfig) (key : String) (v : Toml.Value) (span : Span) :
    Except Toml.Error RunnerConfig :=
  match key with
  | "language" => do pure { c with language := ← offer (stringSetting "a string") v span }
  | "bin_dir" => do pure { c with binDir := ← offer (stringSetting "a string") v span }
  | "jobs" => do pure { c with jobs := ← offer countSetting v span }
  | "max_execution_time" => do pure { c with maxExecutionTime := ← offer floatSetting v span }
  | "atol" => do pure { c with atol := ← offer floatSetting v span }
  | "rtol" => do pure { c with rtol := ← offer floatSetting v span }
  | "max_compare_failure" => do pure { c with maxCompareFailure := ← offer countSetting v span }
  | "report_dir" => do pure { c with reportDir := ← offer (stringSetting "path string") v span }
  | "prefix_simulation" => do
    pure { c with prefixSimulation := ← offer (stringSetting "a string") v span }
  | "exe_ext" => do pure { c with exeExt := ← offer (stringSetting "a string") v span }
  | "disable_run" => do pure { c with disableRun := ← offer boolSetting v span }
  | "disable_make_clean" => do pure { c with disableMakeClean := ← offer boolSetting v span }
  | "disable_compare" => do pure { c with disableCompare := ← offer boolSetting v span }
  | "print_to_console" => do pure { c with printToConsole := ← offer boolSetting v span }
  | "inspect_core_dumps" => do pure { c with inspectCoreDumps := ← offer boolSetting v span }
  | "dataset_suffix" => do
    pure { c with datasetSuffix := ← offer (stringSetting "a string") v span }
  | "filter" => do pure { c with filter := ← offer filterSetting v span }
  | _ => skipUnknown c v span

/-- The settings of a document's root table. -/
def RunnerConfig.ofToml (root : Toml.Value) : Except Toml.Error RunnerConfig :=
  match root with
  | .table _ es => (sortedEntries es).foldlM (fun c (k, _, v, s) => c.setting k v s) {}
  | _ => .ok {}

/-- Why settings were refused. -/
inductive ConfigError where
  /-- The document is not TOML, or a value has the wrong type; with the document's text. -/
  | toml (e : Toml.Error) (source : String)
  /-- A tolerance is negative or NaN. -/
  | tolerance (t : Tolerance)
  /-- The time limit is negative or NaN. -/
  | timeLimit
  /-- The settings file could not be read. -/
  | unreadable (path : String) (fault : String)
  /-- The settings file was read but refused. -/
  | inFile (path : String) (cause : ConfigError)

/-- The text of a settings error, causes after the step they explain. -/
def ConfigError.message : ConfigError → String
  | .toml e source => e.render source
  | .tolerance t => t.complaint
  | .timeLimit => "max_execution_time must be a non-negative number of minutes"
  | .unreadable path fault => "Failed to read config file: " ++ path ++ ": " ++ fault
  | .inFile path cause => "Failed to parse config file: " ++ path ++ ": " ++ cause.message

/-- Checks the tolerances and the time limit. -/
def RunnerConfig.check (c : RunnerConfig) : Except ConfigError RunnerConfig := do
  let t : Tolerance := ⟨c.atol, c.rtol⟩
  if !t.valid then throw (.tolerance t)
  if !(c.maxExecutionTime >= 0.0) then throw .timeLimit
  pure c

/-- Reads and checks the settings of a document. -/
def RunnerConfig.parse (text : String) : Except ConfigError RunnerConfig := do
  let root ← (Toml.parse text).mapError (.toml · text)
  let c ← (RunnerConfig.ofToml root).mapError (.toml · text)
  c.check

end SimRegress
