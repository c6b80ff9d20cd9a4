/-!
Sets of code points kept as sorted, disjoint ranges.

A character class drawn from the Unicode character database is a few hundred ranges of code
points; membership is a halving search over them.
-/

namespace SimRegress

/-- Whether `n` lies in one of the ranges from index `lo` below index `hi`, by halving; the
ranges are sorted, disjoint, and include their bounds. -/
def inRanges (ranges : Array (Nat × Nat)) (n : Nat) (lo hi : Nat) : Bool :=
  if _h : lo < hi then
    let mid := (lo + hi) / 2
    let (a, b) := ranges.getD mid (0, 0)
    if n < a then inRanges ranges n lo mid
    else if b < n then inRanges ranges n (mid + 1) hi
    else true
  else false
termination_by hi - lo

/-- Whether `n` lies in one of the ranges. -/
def memRanges (ranges : Array (Nat × Nat)) (n : Nat) : Bool := inRanges ranges n 0 ranges.size

end SimRegress
