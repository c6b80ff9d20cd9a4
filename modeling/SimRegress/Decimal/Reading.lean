import SimRegress.Decimal.Shortest

/-!
Reading a decimal number from text.

The grammar is an optional sign followed either by one of the words `inf`, `infinity` and `nan`
in any case, or by digits with an optional point (at least one digit on either side of it) and an
optional exponent `e` or `E` with an optional sign and at least one digit. Nothing else may stand
in the text, blanks included. The value is the nearest binary64 value to the decimal.
-/

namespace SimRegress.Decimal

def nan : Float := 0.0 / 0.0

def infinity : Float := 1.0 / 0.0

/-- The value of a list of decimal digits. -/
def ofDigits (ds : List Char) : Nat := ds.foldl (fun a c => 10 * a + (c.toNat - '0'.toNat)) 0

def spanDigits (cs : List Char) : List Char × List Char :=
  (cs.takeWhile Char.isDigit, cs.dropWhile Char.isDigit)

/-- The nearest binary64 value to `m * 10^e`. Values at or above `10^309` are infinite, values
below `10^-324` are zero, which keeps the exact arithmetic small for extreme exponents. -/
def nearest (m : Nat) (e : Int) : Float :=
  if m == 0 then 0.0
  else
    let top := e + (digitCount m : Int)
    if 310 ≤ top then infinity
    else if top ≤ -324 then 0.0
    else Float.ofScientific m (decide (e < 0)) e.natAbs

/-- Reads the exponent part after the `e`: an optional sign and at least one digit. -/
def readExponent (cs : List Char) : Option Int :=
  let (neg, cs) := match cs with
    | '+' :: r => (false, r)
    | '-' :: r => (true, r)
    | r => (false, r)
  let (ds, rest) := spanDigits cs
  if ds.isEmpty || !rest.isEmpty then none
  else
    let n : Int := ofDigits ds
    some (if neg then -n else n)

/-- Reads an unsigned number: digits, an optional point with digits, an optional exponent. -/
def readUnsigned (cs : List Char) : Option Float :=
  let (whole, r) := spanDigits cs
  let (frac, r) := match r with
    | '.' :: r' => spanDigits r'
    | _ => ([], r)
  if whole.isEmpty && frac.isEmpty then none
  else
    let m := ofDigits (whole ++ frac)
    let shift : Int := frac.length
    match r with
    | [] => some (nearest m (-shift))
    | c :: r' =>
      if c == 'e' || c == 'E' then (readExponent r').map fun x => nearest m (x - shift)
      else none

/-- The words for the special values, in lower case. -/
def readWord (cs : List Char) : Option Float :=
  match String.ofList (cs.map Char.toLower) with
  | "inf" => some infinity
  | "infinity" => some infinity
  | "nan" => some nan
  | _ => none

/-- Reads a whole text as a number, or fails. -/
def readFloat? (s : String) : Option Float :=
  let (neg, cs) := match s.toList with
    | '+' :: r => (false, r)
    | '-' :: r => (true, r)
    | r => (false, r)
  if cs.isEmpty then none
  else
    let v := match readWord cs with
      | some w => some w
      | none => readUnsigned cs
    v.map fun x => if neg then -x else x

end SimRegress.Decimal
