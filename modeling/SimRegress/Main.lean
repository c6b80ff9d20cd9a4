import SimRegress.Config.Context
import SimRegress.Config.Settings

/-!
The command line: checks a settings file read from standard input.

The settings are read and checked as a run would read them, then resolved against an environment
that has only a home directory, and printed one per line. A settings error is printed after
`Error: ` on standard error, with a failing exit code.
-/

namespace SimRegress.Cli

def wordList (ws : List String) : String := ", ".intercalate ws

def describe (c : RunnerConfig) (ctx : RunContext) : List String :=
  [ "language = " ++ c.language,
    "jobs = " ++ Decimal.digitsText c.jobs,
    "tools = " ++ (ctx.binDir.getD "(search path)"),
    "timeout = " ++ (match ctx.timeout with
      | some d => d.clock
      | none => "none"),
    "atol = " ++ messageStyle.render c.atol,
    "rtol = " ++ messageStyle.render c.rtol,
    "max_compare_failure = " ++ Decimal.digitsText c.maxCompareFailure,
    "report_dir = " ++ c.reportDir,
    "prefix_simulation = [" ++ wordList ctx.prefixSimulation ++ "]",
    "labels = [" ++ wordList c.filter.labels ++ "]",
    "exclude_labels = [" ++ wordList c.filter.excludeLabels ++ "]",
    "kinds = [" ++ wordList c.filter.kinds ++ "]" ]

/-- The resolved settings of a settings text, or the text of the error. -/
def resolve (home : String) (text : String) : Except String (List String) :=
  match RunnerConfig.parse text with
  | .error e => .error e.message
  | .ok c =>
    match RunContext.ofConfig ⟨[("HOME", home)]⟩ c with
    | .error e => .error e.message
    | .ok ctx => .ok (describe c ctx)

end SimRegress.Cli

open SimRegress

partial def readRest (stream : IO.FS.Stream) (acc : String) : IO String := do
  let line ← stream.getLine
  if line.isEmpty then pure acc else readRest stream (acc ++ line)

/-- Checks the settings on standard input. -/
def main : IO UInt32 := do
  let text ← readRest (← IO.getStdin) ""
  let home := (← IO.getEnv "HOME").getD ""
  match Cli.resolve home text with
  | .ok lines =>
    lines.forM IO.println
    pure 0
  | .error message =>
    IO.eprintln ("Error: " ++ message)
    pure 1
