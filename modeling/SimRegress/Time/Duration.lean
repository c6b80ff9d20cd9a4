import SimRegress.Decimal.Layout

/-!
Durations: whole seconds below `2^64` and nanoseconds below one second.

A number of seconds given as a float becomes a duration by rounding it to the nearest
nanosecond, a tie to the even one; a negative value, NaN, an infinity, and a value of `2^64`
seconds or more have no duration. Adding durations past the largest one, and dividing by zero,
are faults of their own. Division rounds the total number of nanoseconds down.
-/

namespace SimRegress

def nanosPerSecond : Nat := 1000000000

/-- A span of time. -/
structure Duration where
  secs : Nat
  nanos : Nat
  deriving DecidableEq, Repr

/-- The number of nanoseconds of a duration. -/
def Duration.total (d : Duration) : Nat := d.secs * nanosPerSecond + d.nanos

/-- The duration of a number of nanoseconds. -/
def Duration.ofNanos (n : Nat) : Duration := ⟨n / nanosPerSecond, n % nanosPerSecond⟩

def Duration.zero : Duration := ⟨0, 0⟩

def secondsBound : Nat := Nat.pow 2 64

/-- Why seconds given as a float have no duration. -/
inductive SecondsFault where
  | negative
  | tooBigOrNaN
  deriving DecidableEq, Repr

def SecondsFault.message : SecondsFault → String
  | .negative => "cannot convert float seconds to Duration: value is negative"
  | .tooBigOrNaN => "cannot convert float seconds to Duration: value is either too big or NaN"

/-- Seconds given as a float, rounded to the nearest nanosecond, a tie to the even one. -/
def Duration.ofSeconds (x : Float) : Except SecondsFault Duration :=
  if x < 0.0 then .error .negative
  else if x.isNaN || x.isInf then .error .tooBigOrNaN
  else
    let b := Decimal.Binary.ofBits x.toBits
    let num := b.m * Nat.pow 2 b.q.toNat
    let den := Nat.pow 2 (-b.q).toNat
    if num ≥ secondsBound * den then .error .tooBigOrNaN
    else .ok (Duration.ofNanos (Decimal.roundDiv (num * nanosPerSecond) den .toEven))

/-- Seconds given as a float, or nothing when they have no duration. -/
def Duration.ofSeconds? (x : Float) : Option Duration :=
  match Duration.ofSeconds x with
  | .ok d => some d
  | .error _ => none

/-- Why arithmetic on durations failed. -/
inductive DurationFault where
  /-- A sum reached `2^64` seconds. -/
  | addOverflow
  /-- A division by zero. -/
  | divideByZero
  deriving DecidableEq, Repr

def DurationFault.message : DurationFault → String
  | .addOverflow => "overflow when adding durations"
  | .divideByZero => "divide by zero error when dividing duration by scalar"

/-- The sum of two durations. -/
def Duration.add (a b : Duration) : Except DurationFault Duration :=
  let d := Duration.ofNanos (a.total + b.total)
  if d.secs ≥ secondsBound then .error .addOverflow else .ok d

/-- A duration divided by a count, the nanoseconds rounded down. -/
def Duration.div (d : Duration) (k : Nat) : Except DurationFault Duration :=
  if k == 0 then .error .divideByZero else .ok (Duration.ofNanos (d.total / k))

/-- Two digits, a zero in front of one. -/
def twoDigits (n : Nat) : String :=
  (if n < 10 then "0" else "") ++ Decimal.digitsText n

/-- Hours, minutes and seconds: `h:mm:ss`. -/
def Duration.clock (d : Duration) : String :=
  Decimal.digitsText (d.secs / 3600) ++ ":" ++ twoDigits (d.secs % 3600 / 60) ++ ":" ++
    twoDigits (d.secs % 60)

/-- `n` with zeros in front, `width` digits at least. -/
def padDigits (n width : Nat) : String :=
  let s := Decimal.digitsText n
  Decimal.zeros (width - s.length) ++ s

/-- A duration in the largest of seconds, milliseconds, microseconds and nanoseconds that it
reaches, with `places` digits after the point and a half rounded to the even digit. -/
def Duration.brief (d : Duration) (places : Nat) : String :=
  let (whole, frac, unit, suffix) :=
    if d.secs > 0 then (d.secs, d.nanos, nanosPerSecond, "s")
    else if d.nanos ≥ 1000000 then (d.nanos / 1000000, d.nanos % 1000000, 1000000, "ms")
    else if d.nanos ≥ 1000 then (d.nanos / 1000, d.nanos % 1000, 1000, "µs")
    else (d.nanos, 0, 1, "ns")
  let scale := Nat.pow 10 places
  let scaled := Decimal.roundDiv (frac * scale) unit .toEven
  let (whole, scaled) := if scaled ≥ scale then (whole + 1, scaled - scale) else (whole, scaled)
  Decimal.digitsText whole ++ (if places == 0 then "" else "." ++ padDigits scaled places) ++ suffix

end SimRegress
