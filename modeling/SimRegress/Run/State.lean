/-!
How a program run ended, and how the ends of consecutive steps combine.

Of two steps, a timeout in either wins; otherwise the first step's failure; otherwise the second
step's end.
-/

namespace SimRegress

/-- How a program run ended. -/
inductive ExitState where
  | success
  /-- A nonzero exit; a program killed by signal `n` has code `-n`. -/
  | failed (code : Option Int)
  | timedOut
  deriving DecidableEq, Repr

/-- Whether the run succeeded. -/
def ExitState.isSuccess : ExitState → Bool
  | .success => true
  | _ => false

/-- The text of an end: `success`, `failed(2)`, `failed`, `timed-out`. -/
def ExitState.display : ExitState → String
  | .success => "success"
  | .failed (some c) => "failed(" ++ toString c ++ ")"
  | .failed none => "failed"
  | .timedOut => "timed-out"

/-- The end of two consecutive steps. -/
def ExitState.merge : ExitState → ExitState → ExitState
  | .timedOut, _ | _, .timedOut => .timedOut
  | .failed c, _ => .failed c
  | _, second => second

end SimRegress
