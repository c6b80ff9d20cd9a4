/-!
White space, as the Unicode property `White_Space` defines it, and trimming by it.

`isWhite` holds of the 25 characters of the property: the ASCII tab, line feed, vertical tab,
form feed, carriage return and space, the next-line control, the no-break space, the Ogham
space mark, the eleven spaces from the en quad to the hair space, the line and paragraph
separators, the narrow no-break space, the medium mathematical space and the ideographic space.
-/

namespace SimRegress.Text

/-- The character has the Unicode property `White_Space`. -/
def isWhite (c : Char) : Bool :=
  let n := c.toNat
  (0x09 ≤ n && n ≤ 0x0D) || n == 0x20 || n == 0x85 || n == 0xA0 || n == 0x1680 ||
    (0x2000 ≤ n && n ≤ 0x200A) || n == 0x2028 || n == 0x2029 || n == 0x202F ||
    n == 0x205F || n == 0x3000

/-- The text without white space at either end. -/
def trim (s : String) : String :=
  String.ofList ((s.toList.dropWhile isWhite).reverse.dropWhile isWhite).reverse

/-- The text holds only white space. -/
def isBlankText (s : String) : Bool := s.toList.all isWhite

/-- Cuts characters into lines, `cur` holding the current line in reverse. -/
def linesFrom : List Char → List Char → List String
  | [], [] => []
  | [], cur => [String.ofList cur.reverse]
  | '\n' :: r, cur =>
    let line := match cur with
      | '\r' :: c => c
      | c => c
    String.ofList line.reverse :: linesFrom r []
  | c :: r, cur => linesFrom r (c :: cur)

/-- The lines of a text: it is cut after every line feed, which is dropped together with a
carriage return just before it; the empty rest after a final line feed is no line. -/
def lines (s : String) : List String := linesFrom s.toList []

end SimRegress.Text
