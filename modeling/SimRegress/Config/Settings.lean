import SimRegress.Config.Runner

/-!
The settings of a run: the settings file, then the command line over it.

The file is read when it is required or when it exists, and otherwise every setting takes its
default. A setting given on the command line replaces the file's, except the four switches,
which can only be turned on. The tolerances and the time limit are checked once more after that,
since the command line may have changed them.
-/

namespace SimRegress

/-- The settings given on the command line; a missing one leaves the file's as it is. -/
structure ConfigOverrides where
  language : Option String := none
  jobs : Option Nat := none
  binDir : Option String := none
  maxExecutionTime : Option Float := none
  atol : Option Float := none
  rtol : Option Float := none
  maxCompareFailure : Option Nat := none
  reportDir : Option String := none
  disableRun : Bool := false
  disableMakeClean : Bool := false
  disableCompare : Bool := false
  printToConsole : Bool := false
  labels : Option (List String) := none
  excludeLabels : Option (List String) := none
  kinds : Option (List String) := none

/-- The settings with the command line's over them. -/
def ConfigOverrides.apply (o : ConfigOverrides) (c : RunnerConfig) : RunnerConfig :=
  { c with
    language := o.language.getD c.language
    jobs := o.jobs.getD c.jobs
    binDir := o.binDir.getD c.binDir
    maxExecutionTime := o.maxExecutionTime.getD c.maxExecutionTime
    atol := o.atol.getD c.atol
    rtol := o.rtol.getD c.rtol
    maxCompareFailure := o.maxCompareFailure.getD c.maxCompareFailure
    reportDir := o.reportDir.getD c.reportDir
    disableRun := c.disableRun || o.disableRun
    disableMakeClean := c.disableMakeClean || o.disableMakeClean
    disableCompare := c.disableCompare || o.disableCompare
    printToConsole := c.printToConsole || o.printToConsole
    filter :=
      { labels := o.labels.getD c.filter.labels
        excludeLabels := o.excludeLabels.getD c.filter.excludeLabels
        kinds := o.kinds.getD c.filter.kinds } }

/-- The name of the settings file in the directory of the examples. -/
def settingsFileName : String := "RunExamples.toml"

def missingFileFault : String := "No such file or directory (os error 2)"

/-- The settings of a run from the text of the settings file at `path`, if it exists, and the
command line; `required` makes a missing file an error. -/
def loadSettings (path : String) (file : Option String) (required : Bool) (o : ConfigOverrides) :
    Except ConfigError RunnerConfig := do
  let base ← match file with
    | some text => (RunnerConfig.parse text).mapError (ConfigError.inFile path)
    | none => if required then throw (ConfigError.unreadable path missingFileFault) else pure {}
  (o.apply base).check

end SimRegress
