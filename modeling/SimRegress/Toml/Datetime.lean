/-!
Checking TOML dates and times.

A date is `YYYY-MM-DD`; a time is `HH:MM`, then optionally `:SS` and then optionally a fraction
of a second; a date and a time are joined by `T` or a blank, and then may carry an offset, `Z`
or `+HH:MM` / `-HH:MM`. The month is 01 to 12, the day fits its month (February has 29 days in
leap years), the hour is 00 to 23, the minute 00 to 59, and the second 00 to 60, for leap
seconds. A fault names what is wrong and what was expected there; text left after a whole date
and time is a fault of its own.
-/

namespace SimRegress.Toml

/-- The pieces a date or time is written in. -/
inductive DatePiece where
  | digits (ds : List Char)
  | dash
  | colon
  | dot
  | tee
  | zed
  | plus
  | space
  | other
  deriving DecidableEq, Repr

def datePieces : List Char → List DatePiece
  | [] => []
  | c :: r =>
    if c.isDigit then
      let ds := r.takeWhile Char.isDigit
      .digits (c :: ds) :: datePieces (r.drop ds.length)
    else
      let p : DatePiece :=
        if c == '-' then .dash else if c == ':' then .colon else if c == '.' then .dot
        else if c == 'T' || c == 't' then .tee else if c == 'Z' || c == 'z' then .zed
        else if c == '+' then .plus else if c == ' ' then .space else .other
      p :: datePieces r
termination_by cs => cs.length
decreasing_by all_goals (simp; try omega)

/-- A fault of a date or time: what is wrong, and what was expected. -/
def dateFault (what expected : String) : String := "invalid " ++ what ++ ", expected " ++ expected

def digitsValue (ds : List Char) : Nat := ds.foldl (fun n c => n * 10 + (c.toNat - 48)) 0

/-- Takes a piece of digits, or fails with `fault`. -/
def takeDigits (fault : String) : List DatePiece → Except String (List Char × List DatePiece)
  | .digits ds :: r => .ok (ds, r)
  | _ => .error fault

/-- Takes a given piece, or fails with `fault`. -/
def takePiece (p : DatePiece) (fault : String) : List DatePiece → Except String (List DatePiece)
  | q :: r => if q == p then .ok r else .error fault
  | [] => .error fault

def daysIn (year month : Nat) : Nat :=
  if month == 2 then
    if year % 4 == 0 && (year % 100 != 0 || year % 400 == 0) then 29 else 28
  else if month == 4 || month == 6 || month == 9 || month == 11 then 30 else 31

/-- Checks a date after its year and the dash after it; gives the pieces after the date. -/
def checkDate (year : List Char) (ps : List DatePiece) : Except String (List DatePiece) := do
  let (month, ps) ← takeDigits (dateFault "date" "month") ps
  let ps ← takePiece .dash (dateFault "date" "`-` (MM-DD)") ps
  let (day, ps) ← takeDigits (dateFault "date" "day") ps
  if year.length != 4 then throw (dateFault "date" "a four-digit year (YYYY)")
  if month.length != 2 then throw (dateFault "date" "a two-digit month (MM)")
  if day.length != 2 then throw (dateFault "date" "a two-digit day (DD)")
  let (y, m, d) := (digitsValue year, digitsValue month, digitsValue day)
  if m < 1 || m > 12 then throw (dateFault "date" "month between 01 and 12")
  let most := daysIn y m
  if d < 1 || d > most then
    throw (dateFault "date" ("day between 01 and " ++ (if most < 10 then "0" else "") ++
      toString most))
  pure ps

/-- Checks a time; gives the pieces after it. -/
def checkTime (ps : List DatePiece) : Except String (List DatePiece) := do
  let (hour, ps) ← takeDigits (dateFault "time" "hour") ps
  let ps ← takePiece .colon (dateFault "time" "`:` (HH:MM)") ps
  let (minute, ps) ← takeDigits (dateFault "time" "minute") ps
  let (second, ps) ← match ps with
    | .colon :: r => do
      let (s, r) ← takeDigits (dateFault "time" "second") r
      pure (some s, r)
    | _ => pure (none, ps)
  let ps ← match second, ps with
    | some _, .dot :: r => do
      let (_, r) ← takeDigits (dateFault "time" "nanosecond") r
      pure r
    | _, _ => pure ps
  if hour.length != 2 then throw (dateFault "time" "a two-digit hour (HH)")
  if minute.length != 2 then throw (dateFault "time" "a two-digit minute (MM)")
  if second.any (·.length != 2) then throw (dateFault "time" "a two-digit second (SS)")
  if digitsValue hour > 23 then throw (dateFault "time" "hour between 00 and 23")
  if digitsValue minute > 59 then throw (dateFault "time" "minute between 00 and 59")
  if second.any (digitsValue · > 60) then throw (dateFault "time" "second between 00 and 60")
  pure ps

/-- Checks the offset after a date and a time; gives the pieces after it. -/
def checkOffset (ps : List DatePiece) : Except String (List DatePiece) :=
  match ps with
  | .zed :: r => .ok r
  | .plus :: r | .dash :: r => do
    let (hours, r) ← takeDigits (dateFault "offset" "hour") r
    let r ← takePiece .colon (dateFault "offset" "`:` (HH:MM)") r
    let (minutes, r) ← takeDigits (dateFault "offset" "minute") r
    if hours.length != 2 then throw (dateFault "offset" "a two-digit hour (HH)")
    if minutes.length != 2 then throw (dateFault "offset" "a two-digit minute (MM)")
    if digitsValue hours > 23 then throw (dateFault "offset" "hours between 00 and 23")
    if digitsValue minutes > 59 then throw (dateFault "offset" "minutes between 00 and 59")
    pure r
  | [] => .ok []
  | _ :: _ => .error (dateFault "offset" "`Z`, +OFFSET, -OFFSET")

/-- Checks a date, a time, or both; the fault, if any. -/
def checkDatetime (text : List Char) : Except String Unit := do
  let ps := datePieces text
  let (first, rest) ← takeDigits (dateFault "datetime" "year or hour") ps
  let rest ← match rest with
    | .dash :: r => do
      let r ← checkDate first r
      match r with
      | .tee :: r' | .space :: r' => do
        let r' ← checkTime r'
        checkOffset r'
      | [] => pure []
      | _ => throw (dateFault "date-time" "`T` between date and time")
    | .colon :: _ => checkTime ps
    | _ => throw (dateFault "datetime" "`-` (YYYY-MM) or `:` (HH:MM)")
  if !rest.isEmpty then throw "invalid datetime"

end SimRegress.Toml
