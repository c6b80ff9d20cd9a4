import SimRegress.Config.Runner
import SimRegress.Shell.Words
import SimRegress.Shell.Expand
import SimRegress.Time.Duration
import SimRegress.Text.Blank

/-!
What a run needs from its settings, resolved once before any job starts.

The tool directory has `~` and environment variables expanded, unless it is blank, in which
case tools are looked up by name alone. The prefix of simulations is split into words as a shell
would. The time limit in minutes becomes a duration of seconds, none for a limit of zero; a limit
too large for a duration is a fault of its own, not a settings error.
-/

namespace SimRegress

/-- The settings of a run as the jobs use them. -/
structure RunContext where
  /-- The directory of the tools, expanded; none when they are looked up by name. -/
  binDir : Option String
  /-- The time limit of a command. -/
  timeout : Option Duration
  tolerance : Tolerance
  maxFailures : Nat
  /-- The words put before every simulation command. -/
  prefixSimulation : List String
  exeExt : String
  /-- Whether simulations stop at the smallest end time. -/
  minimalEndTime : Bool

/-- Why the settings could not be resolved. -/
inductive ContextError where
  | tolerance (t : Tolerance)
  /-- The tool directory names a variable that is not set. -/
  | binDir (value : String) (fault : Shell.UnsetVariable)
  /-- The prefix of simulations leaves a quote or an escape open. -/
  | prefixSimulation (value : String)
  /-- The time limit has no duration; resolving it stops the program. -/
  | timeout (fault : SecondsFault)

def ContextError.message : ContextError → String
  | .tolerance t => t.complaint
  | .binDir value fault => "Failed to expand bin_dir: " ++ value ++ ": " ++ fault.message
  | .prefixSimulation value => "Failed to parse prefix_simulation: " ++ value
  | .timeout fault => fault.message

/-- Appends a file name to a directory path: an absolute name replaces the directory, and a
separator goes between them unless the directory is empty or already ends in one. -/
def joinPath (dir file : String) : String :=
  if file.startsWith "/" || dir.isEmpty then file
  else if dir.endsWith "/" then dir ++ file
  else dir ++ "/" ++ file

/-- The time limit of `minutes`, none for zero or less. -/
def timeLimit (minutes : Float) : Except SecondsFault (Option Duration) :=
  if minutes > 0.0 then some <$> Duration.ofSeconds (minutes * 60.0) else .ok none

/-- Resolves the settings of a run against an environment. -/
def RunContext.ofConfig (env : Shell.Environment) (c : RunnerConfig) :
    Except ContextError RunContext := do
  let t : Tolerance := ⟨c.atol, c.rtol⟩
  if !t.valid then throw (.tolerance t)
  let binDir ← if Text.isBlankText c.binDir then pure none
    else match Shell.expandPath env c.binDir with
      | .ok dir => pure (some dir)
      | .error fault => throw (ContextError.binDir c.binDir fault)
  let prefixSimulation ← match Shell.words c.prefixSimulation with
    | some ws => pure ws
    | none => throw (ContextError.prefixSimulation c.prefixSimulation)
  let timeout ← (timeLimit c.maxExecutionTime).mapError .timeout
  pure
    { binDir := binDir, timeout := timeout, tolerance := t, maxFailures := c.maxCompareFailure,
      prefixSimulation := prefixSimulation, exeExt := c.exeExt,
      minimalEndTime := env.get? "MBSIM_SET_MINIMAL_TEND" |>.isSome }

/-- The path of a tool: its name with the extension, in the tool directory if there is one. -/
def RunContext.tool (ctx : RunContext) (name : String) : String :=
  let file := name ++ ctx.exeExt
  match ctx.binDir with
  | some dir => joinPath dir file
  | none => file

end SimRegress
