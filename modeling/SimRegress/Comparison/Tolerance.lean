import SimRegress.Decimal.Layout

/-!
Tolerances, and when a pair of samples violates them.

A pair violates a tolerance when its absolute difference exceeds both the absolute tolerance
and the relative tolerance times the magnitude of the reference. Two NaNs agree; a NaN never
agrees with a number; two infinities agree only if they are equal. Tolerances are valid when
neither is negative nor NaN.
-/

namespace SimRegress

/-- An absolute and a relative tolerance. -/
structure Tolerance where
  atol : Float
  rtol : Float

/-- The tolerances used when none are given. -/
def Tolerance.default : Tolerance := ⟨2e-5, 2e-5⟩

/-- The pair (`reference`, `current`) violates the tolerance. -/
def Tolerance.violates (t : Tolerance) (reference current : Float) : Bool :=
  if reference.isNaN && current.isNaN then false
  else if !reference.isFinite || !current.isFinite then reference != current
  else
    let diff := (current - reference).abs
    diff > t.atol && diff > t.rtol * reference.abs

/-- Neither tolerance is negative or NaN. -/
def Tolerance.valid (t : Tolerance) : Bool := t.atol >= 0.0 && t.rtol >= 0.0

/-- Numbers in messages are written positionally with the fewest digits that read back, an
integral value without a point. -/
def messageStyle : Decimal.Style where
  plainFrom := -400
  plainBelow := 400
  pointZero := false
  expPlus := false
  tie := .up
  nan := "NaN"
  inf := "inf"

def Tolerance.complaint (t : Tolerance) : String :=
  "Tolerances must be non-negative numbers (atol = " ++ messageStyle.render t.atol ++
    ", rtol = " ++ messageStyle.render t.rtol ++ ")"

/-- The tolerances if they are valid, else why not. -/
def Tolerance.check (t : Tolerance) : Except String Tolerance :=
  if t.valid then .ok t else .error t.complaint

end SimRegress
