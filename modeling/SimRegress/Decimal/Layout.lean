import SimRegress.Decimal.Shortest

/-!
Laying out a selected decimal as text.

A `Style` holds the decisions of one float text format: which decimal exponents are written
positionally, whether an integral positional value keeps a `.0`, whether a non-negative exponent
carries a `+`, how ties between candidates go, and the texts of NaN and infinity. A negative value,
zero included, is written with a leading `-`. `fixed` writes a value with a set number of places,
rounding its exact binary value.
-/

namespace SimRegress.Decimal

/-- The decisions of one float text format. -/
structure Style where
  /-- The least exponent of the leading digit that is written positionally. -/
  plainFrom : Int
  /-- Exponents of the leading digit from here on are written with an exponent. -/
  plainBelow : Int
  /-- An integral value written positionally ends in `.0`. -/
  pointZero : Bool
  /-- A non-negative exponent is written with a `+`. -/
  expPlus : Bool
  /-- How a tie between two shortest candidates goes. -/
  tie : Tie
  /-- The text of NaN. -/
  nan : String
  /-- The text of positive infinity; negative infinity has a `-` in front. -/
  inf : String

def zeros (n : Nat) : String := String.ofList (List.replicate n '0')

def digitsText (n : Nat) : String := String.ofList (Nat.toDigits 10 n)

/-- The text of the exponent `e`, with its sign as the style wants it. -/
def Style.exponent (n : Style) (e : Int) : String :=
  (if e < 0 then "-" else if n.expPlus then "+" else "") ++ digitsText e.natAbs

/-- The text of a non-negative decimal: positional when the exponent of its leading digit lies in
the style's range, otherwise a leading digit, the rest after a point, and an exponent. -/
def Style.layout (n : Style) (d : Dec) : String :=
  let s := Nat.toDigits 10 d.digits
  let len : Int := s.length
  let e := d.exp + len - 1
  if n.plainFrom ≤ e ∧ e < n.plainBelow then
    if 0 ≤ d.exp then
      String.ofList s ++ zeros d.exp.toNat ++ (if n.pointZero then ".0" else "")
    else if 0 ≤ e then
      let cut := (len + d.exp).toNat
      String.ofList (s.take cut) ++ "." ++ String.ofList (s.drop cut)
    else
      "0." ++ zeros (-e - 1).toNat ++ String.ofList s
  else
    let rest := s.drop 1
    String.ofList (s.take 1) ++ (if rest.isEmpty then "" else "." ++ String.ofList rest) ++
      "e" ++ n.exponent e

/-- The sign bit of a float: set for negative values, `-0.0` included. -/
def signBit (x : Float) : Bool := x.toBits >>> 63 == 1

/-- The text of a float in the style: its special texts, or the layout of its shortest
decimal with the sign in front. -/
def Style.render (n : Style) (x : Float) : String :=
  if x.isNaN then n.nan
  else if x.isInf then (if x < 0 then "-" else "") ++ n.inf
  else
    (if signBit x then "-" else "") ++ n.layout ((Binary.ofBits x.toBits).shortest n.tie)

/-- Rounds `num / den` to an integer; an exact tie goes as `t` says. -/
def roundDiv (num den : Nat) (t : Tie) : Nat :=
  let q := num / den
  let r := num % den
  match compare (2 * r) den, t with
  | .lt, _ => q
  | .gt, _ => q + 1
  | .eq, .up => q + 1
  | .eq, .toEven => if q % 2 == 0 then q else q + 1

/-- The value written with `places` digits after the point: its exact binary value rounded,
a tie to the even neighbour. NaN and the infinities have the texts `NaN`, `inf` and `-inf`. -/
def fixed (places : Nat) (x : Float) : String :=
  if x.isNaN then "NaN"
  else if x.isInf then (if x < 0 then "-inf" else "inf")
  else
    let b := Binary.ofBits x.toBits
    let n := roundDiv (b.m * Nat.pow 2 b.q.toNat * Nat.pow 10 places) (Nat.pow 2 (-b.q).toNat) .toEven
    let s := Nat.toDigits 10 n
    let s := List.replicate (places + 1 - s.length) '0' ++ s
    let cut := s.length - places
    let body := if places == 0 then String.ofList s
      else String.ofList (s.take cut) ++ "." ++ String.ofList (s.drop cut)
    (if signBit x then "-" else "") ++ body

end SimRegress.Decimal
