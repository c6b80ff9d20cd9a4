/-!
Finding one text inside another, on lists of characters.

`dropThrough pat cs` is what follows the first occurrence of `pat` in `cs`; `occursIn` says
whether there is one. The empty pattern occurs at the front of every text.
-/

namespace SimRegress.Text

/-- What follows the first occurrence of `pat` in `cs`, if it occurs. -/
def dropThrough (pat : List Char) : List Char → Option (List Char)
  | [] => if pat.isEmpty then some [] else none
  | c :: cs =>
    if pat.isPrefixOf (c :: cs) then some ((c :: cs).drop pat.length)
    else dropThrough pat cs

/-- Whether `pat` occurs in `cs`. -/
def occursIn (pat cs : List Char) : Bool := (dropThrough pat cs).isSome

/-- Whether the string `pat` occurs in the string `s`. -/
def contains (s pat : String) : Bool := occursIn pat.toList s.toList

end SimRegress.Text
