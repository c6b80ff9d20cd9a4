import SimRegress.Decimal.Layout

/-!
JSON values and their text.

A number keeps the form it was read in: a non-negative integer of 64 bits, a negative integer of
64 bits, or a binary64 value. An object is a list of members in the order they were read;
`Value.asMap` turns it into a map with keys in byte order, where the last of two equal keys wins.

Writing is compact (`Value.compact`) or indented by two spaces per level (`Value.pretty`).
Strings escape the quote, the backslash and the control characters; a float is written in
`numberStyle`, and a NaN or an infinity, which JSON cannot hold, is written `null`.
-/

namespace SimRegress.Json

/-- A JSON number in the form it was read. -/
inductive Number where
  /-- A non-negative integer below `2^64`. -/
  | nat (n : Nat)
  /-- A negative integer not below `-2^63`. -/
  | neg (n : Int)
  /-- Any other number, as a binary64 value. -/
  | float (x : Float)
  deriving Repr

/-- A JSON value. -/
inductive Value where
  | null
  | bool (b : Bool)
  | num (n : Number)
  | str (s : String)
  | arr (items : List Value)
  | obj (members : List (String × Value))
  deriving Repr, Inhabited

/-- The number as a binary64 value, rounding a large integer to the nearest one. -/
def Number.toFloat : Number → Float
  | .nat n => Float.ofScientific n false 0
  | .neg n => -(Float.ofScientific n.natAbs false 0)
  | .float x => x

/-- Floats are written with the fewest digits that read back: positionally when the leading digit
stands between `10^-5` and `10^15`, with `.0` after an integral value, and otherwise as a digit,
the rest after a point, `e`, and a signed exponent. -/
def numberStyle : Decimal.Style where
  plainFrom := -5
  plainBelow := 16
  pointZero := true
  expPlus := true
  tie := .toEven
  nan := "NaN"
  inf := "inf"

/-- The text of a number. -/
def Number.render : Number → String
  | .nat n => Decimal.digitsText n
  | .neg n => "-" ++ Decimal.digitsText n.natAbs
  | .float x => if x.isNaN || x.isInf then "null" else numberStyle.render x

def hex4 (n : Nat) : String :=
  let s := Nat.toDigits 16 n
  String.ofList (List.replicate (4 - s.length) '0' ++ s)

def escapeChar (c : Char) : String :=
  match c with
  | '"' => "\\\""
  | '\\' => "\\\\"
  | '\n' => "\\n"
  | '\r' => "\\r"
  | '\t' => "\\t"
  | '\x08' => "\\b"
  | '\x0c' => "\\f"
  | c => if c.toNat < 0x20 then "\\u" ++ hex4 c.toNat else String.singleton c

/-- A string in quotes, escaped. -/
def quote (s : String) : String :=
  "\"" ++ String.join (s.toList.map escapeChar) ++ "\""

/-- Inserts a member into members kept in key order, replacing a member of the same key. -/
def insertMember (k : String) (v : Value) : List (String × Value) → List (String × Value)
  | [] => [(k, v)]
  | (k', v') :: r =>
    if k < k' then (k, v) :: (k', v') :: r
    else if k == k' then (k, v) :: r
    else (k', v') :: insertMember k v r

mutual
/-- The value with every object turned into a map: keys in order, the last of equal keys kept. -/
def Value.asMap : Value → Value
  | .arr xs => .arr (Value.itemsAsMap xs)
  | .obj ms => .obj ((Value.membersAsMap ms).foldl (fun acc kv => insertMember kv.1 kv.2 acc) [])
  | v => v
def Value.itemsAsMap : List Value → List Value
  | [] => []
  | x :: xs => x.asMap :: Value.itemsAsMap xs
def Value.membersAsMap : List (String × Value) → List (String × Value)
  | [] => []
  | (k, v) :: r => (k, v.asMap) :: Value.membersAsMap r
end

mutual
/-- The compact text of a value: no blanks at all. -/
def Value.compact : Value → String
  | .null => "null"
  | .bool b => if b then "true" else "false"
  | .num n => n.render
  | .str s => quote s
  | .arr xs => "[" ++ ",".intercalate (Value.compactItems xs) ++ "]"
  | .obj ms => "\x7b" ++ ",".intercalate (Value.compactMembers ms) ++ "\x7d"
def Value.compactItems : List Value → List String
  | [] => []
  | x :: xs => x.compact :: Value.compactItems xs
def Value.compactMembers : List (String × Value) → List String
  | [] => []
  | (k, v) :: r => (quote k ++ ":" ++ v.compact) :: Value.compactMembers r
end

/-- A line break followed by the indentation of a level. -/
def newline (level : Nat) : String := "\n" ++ String.ofList (List.replicate (2 * level) ' ')

mutual
/-- The indented text of a value at a nesting level: each item and member on a line of its own,
two spaces deeper than its container; an empty array or object stays on one line. -/
def Value.pretty (level : Nat) : Value → String
  | .arr [] => "[]"
  | .arr xs => "[" ++ String.join (Value.prettyItems (level + 1) true xs) ++ newline level ++ "]"
  | .obj [] => "\x7b\x7d"
  | .obj ms =>
    "\x7b" ++ String.join (Value.prettyMembers (level + 1) true ms) ++ newline level ++ "\x7d"
  | v => v.compact
/-- The indented items, each after a comma but the first, on a line of its own. -/
def Value.prettyItems (level : Nat) (first : Bool) : List Value → List String
  | [] => []
  | x :: xs =>
    ((if first then "" else ",") ++ newline level ++ x.pretty level) ::
      Value.prettyItems level false xs
def Value.prettyMembers (level : Nat) (first : Bool) : List (String × Value) → List String
  | [] => []
  | (k, v) :: r =>
    ((if first then "" else ",") ++ newline level ++ quote k ++ ": " ++ v.pretty level) ::
      Value.prettyMembers level false r
end

end SimRegress.Json
