/-!
The fewest decimal digits that identify a binary64 value.

A finite value is `m * 2^q`. The reals that round to it form an interval around it, whose ends
belong to it exactly when `m` is even. `Binary.shortest` tries the decimal grids of one, two, …
seventeen significant digits, and on the first grid where one of the value's two neighbours lies
in the interval it takes the nearer such neighbour. All arithmetic is exact, over `Nat`.
-/

namespace SimRegress.Decimal

/-- A finite non-negative binary64 magnitude, `m * 2^q`. -/
structure Binary where
  m : Nat
  q : Int
  /-- The gap to the value below is half the gap to the value above. -/
  narrowBelow : Bool
  deriving Repr, DecidableEq

/-- The magnitude of a finite value given by its bits. NaN and the infinities are no such value,
so callers test for them first. -/
def Binary.ofBits (b : UInt64) : Binary :=
  let e := ((b >>> 52) &&& 0x7FF).toNat
  let f := (b &&& 0xFFFFFFFFFFFFF).toNat
  if e == 0 then ⟨f, -1074, false⟩ else ⟨Nat.pow 2 52 + f, (e : Int) - 1075, f == 0 && e > 1⟩

/-- A decimal `digits * 10^exp`. -/
structure Dec where
  digits : Nat
  exp : Int
  deriving Repr, DecidableEq

/-- How an exact tie between two candidates is settled. -/
inductive Tie where
  /-- Take the candidate whose last digit is even. -/
  | toEven
  /-- Take the candidate of larger magnitude. -/
  | up
  deriving Repr, DecidableEq

/-- Compares `a * 10^i` with `n * 2^j`, exactly. -/
def cmpScaled (a : Nat) (i : Int) (n : Nat) (j : Int) : Ordering :=
  compare (a * Nat.pow 10 i.toNat * Nat.pow 2 (-j).toNat) (n * Nat.pow 2 j.toNat * Nat.pow 10 (-i).toNat)

/-- The decimal lies among the reals that round to the value (to nearest, ties to even). -/
def Binary.readsBack (x : Binary) (d : Dec) : Bool :=
  let lo := if x.narrowBelow then 4 * x.m - 1 else 4 * x.m - 2
  let hi := 4 * x.m + 2
  let incl := x.m % 2 == 0
  let cl := cmpScaled d.digits d.exp lo (x.q - 2)
  let ch := cmpScaled d.digits d.exp hi (x.q - 2)
  (cl == .gt || (incl && cl == .eq)) && (ch == .lt || (incl && ch == .eq))

def Binary.below (x : Binary) (k : Int) : Bool :=
  cmpScaled 1 k x.m x.q == .gt

/-- Moves an estimate `k` of the scale up until the value lies below `10^k`. -/
def Binary.raiseScale (x : Binary) : Nat → Int → Int
  | 0, k => k
  | fuel + 1, k => if x.below k then k else x.raiseScale fuel (k + 1)

/-- Moves an estimate `k` of the scale down while the value also lies below `10^(k-1)`. -/
def Binary.lowerScale (x : Binary) : Nat → Int → Int
  | 0, k => k
  | fuel + 1, k => if x.below (k - 1) then x.lowerScale fuel (k - 1) else k

/-- The least `k` with `m * 2^q < 10^k`, for a non-zero value: the estimate from the binary
logarithm is off by at most one step either way, which the two corrections remove. -/
def Binary.scale (x : Binary) : Int :=
  let e2 : Int := (Nat.log2 x.m : Int) + x.q
  let est := (e2 * 30103) / 100000 + 1
  x.lowerScale 4 (x.raiseScale 4 est)

/-- The value's lower neighbour on the grid `10^g`: `⌊m * 2^q / 10^g⌋`. -/
def Binary.floorOn (x : Binary) (g : Int) : Nat :=
  (x.m * Nat.pow 2 x.q.toNat * Nat.pow 10 (-g).toNat) / (Nat.pow 2 (-x.q).toNat * Nat.pow 10 g.toNat)

/-- Compares twice the value with `(2 * lo + 1) * 10^g`, the sum of its two neighbours. -/
def Binary.cmpMid (x : Binary) (lo : Nat) (g : Int) : Ordering :=
  compare (2 * x.m * Nat.pow 2 x.q.toNat * Nat.pow 10 (-g).toNat)
    ((2 * lo + 1) * Nat.pow 2 (-x.q).toNat * Nat.pow 10 g.toNat)

/-- The neighbour of the value on the grid `10^g` that reads back, the nearer one when both do. -/
def Binary.onGrid (x : Binary) (tie : Tie) (g : Int) : Option Dec :=
  let lo := x.floorOn g
  let a : Dec := ⟨lo, g⟩
  let b : Dec := ⟨lo + 1, g⟩
  match x.readsBack a, x.readsBack b with
  | true, true =>
    match x.cmpMid lo g with
    | .lt => some a
    | .gt => some b
    | .eq =>
      match tie with
      | .toEven => if lo % 2 == 0 then some a else some b
      | .up => some b
  | true, false => some a
  | false, true => some b
  | false, false => none

/-- Moves trailing zeros of the digits into the exponent. -/
def Dec.strip : Nat → Dec → Dec
  | 0, d => d
  | fuel + 1, d =>
    if d.digits != 0 && d.digits % 10 == 0 then Dec.strip fuel ⟨d.digits / 10, d.exp + 1⟩ else d

/-- The exact decimal value of `m * 2^q`. -/
def Binary.exact (x : Binary) : Dec :=
  if x.q < 0 then ⟨x.m * Nat.pow 5 (-x.q).toNat, x.q⟩ else ⟨x.m * Nat.pow 2 x.q.toNat, 0⟩

/-- The shortest decimal that reads back as the value, nearest among those of its length, with
trailing zeros moved into the exponent. Zero is `0 * 10^0`. -/
def Binary.shortest (x : Binary) (tie : Tie) : Dec :=
  if x.m == 0 then ⟨0, 0⟩
  else
    let k := x.scale
    let found := (List.range 17).findSome? fun (i : Nat) => x.onGrid tie (k - ((i : Int) + 1))
    match found with
    | some d => Dec.strip 20 d
    | none => Dec.strip 400 x.exact

/-- The number of decimal digits of `n`, at least one. -/
def digitCount (n : Nat) : Nat := (Nat.toDigits 10 n).length

end SimRegress.Decimal
