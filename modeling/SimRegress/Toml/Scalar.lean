import SimRegress.Toml.Value
import SimRegress.Toml.Token
import SimRegress.Toml.Strings
import SimRegress.Toml.Datetime
import SimRegress.Decimal.Reading

/-!
Reading a bare value: a number, a boolean, or a date and time.

The first character decides what a bare value is taken for. A sign or a digit starts a number,
`0x`, `0o` and `0b` an unsigned integer in base 16, 8 or 2, `t` and `f` a boolean, `i` and `n`
the floats `inf` and `nan`; a run of digits followed by `-` or `:` starts a date or a time. A
number has no leading zero, an underscore stands only between two digits, and a float has digits
before its point, after its point and in its exponent. Anything else should have been quoted.

A bare value with a blank in it is refused as a string that should have been quoted, unless it
is shaped as a date and time. A value with several faults is refused for the first one found, and
the checks run in a fixed order: the sign, the base, the digits of the base, the shape of a
float, then the underscores.
-/

namespace SimRegress.Toml

/-- A fault of a bare value: its text and the bytes of the value it points at. -/
structure BareFault where
  message : String
  lo : Nat
  hi : Nat

/-- The bases an integer may be written in. -/
inductive Radix where
  | decimal
  | hexadecimal
  | octal
  | binary
  deriving DecidableEq, Repr

def Radix.base : Radix → Nat
  | .decimal => 10
  | .hexadecimal => 16
  | .octal => 8
  | .binary => 2

/-- Whether a character is a digit of a radix. -/
def Radix.isDigit (r : Radix) (c : Char) : Bool :=
  isHexDigit c && hexDigitValue c < r.base

/-- The fault of a character that is no digit of a radix. -/
def Radix.invalid : Radix → String
  | .decimal => "invalid integer number"
  | .hexadecimal => "invalid hexadecimal number"
  | .octal => "invalid octal number"
  | .binary => "invalid binary number"

/-- The text of an empty list of what was expected. -/
def expectedNothing : String := ", expected nothing"

/-- Whether some text ends with some other text. -/
def endsWith (cs suffix : List Char) : Bool :=
  suffix.length ≤ cs.length && cs.drop (cs.length - suffix.length) == suffix

/-- The fault of a bare value that should have been a string: one that ends in a quote lacks
its opening quote, any other should have been quoted. -/
def unquotedFault (raw : List Char) : BareFault :=
  let a := apostrophe
  let missing (q : String) : BareFault :=
    ⟨"missing opening quote, expected `" ++ q ++ "`", 0, 0⟩
  if endsWith raw [a, a, a] then missing (String.ofList [a, a, a])
  else if endsWith raw ['"', '"', '"'] then missing "\"\"\""
  else if endsWith raw [a] then missing (String.singleton a)
  else if endsWith raw ['"'] then missing "\""
  else ⟨"string values must be quoted, expected literal string", 0, byteLength raw⟩

/-- The number a signed run of digits of a radix spells, if it spells one. -/
def readInteger (r : Radix) (cs : List Char) : Option Int :=
  let (neg, ds) := match cs with
    | '+' :: t => (false, t)
    | '-' :: t => (true, t)
    | t => (false, t)
  if ds.isEmpty || !ds.all r.isDigit then none
  else
    let n : Int := ds.foldl (fun n c => n * r.base + hexDigitValue c) 0
    some (if neg then -n else n)

/-- The integer value of some digits of a radix, underscores left out. -/
def integerValue (r : Radix) (cs : List Char) : Value :=
  match readInteger r (cs.filter (· != '_')) with
  | some n => .integer n
  | none => .malformedInteger

/-- The float value of a text, underscores left out; a value too large for any float is kept
as such, unless the text is the word `inf` (the only float text with an `i`). -/
def floatValue (cs : List Char) : Value :=
  match Decimal.readFloat? (String.ofList (cs.filter (· != '_'))) with
  | some x => if x.isInf && !cs.contains 'i' then .hugeFloat else .float x
  | none => .hugeFloat

/-- Underscores in digits: in the text `cs` at offset `off`, every underscore stands between two
digits. The first one that does not is the fault. -/
def underscoreFault (isDigit : Char → Bool) (cs : List Char) (off : Nat) : Option BareFault :=
  go none cs off
where
  /-- The first misplaced underscore from offset `pos`, after the character `prev`. -/
  go (prev : Option Char) : List Char → Nat → Option BareFault
    | [], _ => none
    | c :: r, pos =>
      if c == '_' && !(prev.any isDigit && r.head?.any isDigit) then
        some ⟨"`_` may only go between digits" ++ expectedNothing, pos, pos + 1⟩
      else go (some c) r (pos + c.utf8Size)

/-- A leading zero of a number at offset `off`. -/
def leadingZeroFault (cs : List Char) (off : Nat) : Option BareFault :=
  if cs.head? == some '0' then some ⟨"unexpected leading zero" ++ expectedNothing, off, off + 1⟩
  else none

/-- Digits and underscores at offset `off`, as the whole part (`zeroPrefix` false), the fraction
or the exponent of a float: at least one digit, and a whole part of two digits or more does not
start with zero. Gives the fault, or the text after them and its offset. -/
def decimalRun (cs : List Char) (off : Nat) (zeroPrefix : Bool) (what : String) :
    Except BareFault (List Char × Nat) :=
  let run := cs.takeWhile fun c => c.isDigit || c == '_'
  let count := (run.filter Char.isDigit).length
  if count == 0 then .error ⟨what ++ ", expected digits", off, off⟩
  else if 1 < count && cs.head? == some '0' && !zeroPrefix then
    .error ⟨"unexpected leading zero" ++ expectedNothing, off, off + 1⟩
  else .ok (cs.drop run.length, off + run.length)

/-- The shape of a float at offset `off` of a bare value `n` bytes long: a whole part, then a
point and a fraction, then `e` or `E`, a sign and an exponent, each part optional after the
first, and nothing more. -/
def floatShapeFault (cs : List Char) (off n : Nat) : Option BareFault :=
  let shape : Except BareFault (List Char × Nat) := do
    let (cs, off) ← decimalRun cs off false "invalid mantissa"
    let (cs, off) ← match cs with
      | '.' :: r => decimalRun r (off + 1) true "invalid fraction"
      | _ => pure (cs, off)
    match cs with
    | c :: r =>
      if c == 'e' || c == 'E' then
        match r with
        | '+' :: r' | '-' :: r' => decimalRun r' (off + 2) true "invalid exponent"
        | _ => decimalRun r (off + 1) true "invalid exponent"
      else pure (cs, off)
    | [] => pure (cs, off)
  match shape with
  | .error f => some f
  | .ok ([], _) => none
  | .ok (_, off) => some ⟨"invalid float", off, n⟩

/-- The first fault of a list of checks, or else a value. -/
def firstFault (checks : List (Option BareFault)) (v : Value) : Except BareFault Value :=
  match checks.findSome? id with
  | some f => .error f
  | none => .ok v

/-- A decimal integer spelled by the whole bare value `raw`, after some checks. An underscore
in an integer of any base may stand beside any hexadecimal digit. -/
def decimalInteger (raw : List Char) (checks : List (Option BareFault)) :
    Except BareFault Value :=
  firstFault (checks ++ [underscoreFault isHexDigit raw 0])
    (integerValue .decimal raw)

/-- A float spelled by the whole bare value `raw`, its digits starting with `cs` at `off`. -/
def decimalFloat (raw cs : List Char) (off : Nat) : Except BareFault Value :=
  let n := byteLength raw
  firstFault [floatShapeFault cs off n, underscoreFault Char.isDigit raw 0] (floatValue raw)

/-- A bare value whose digits, starting with `cs` at `off`, begin with a digit or an underscore:
an integer, a float, or a date and time. -/
def numberOrDatetime (raw cs : List Char) (off : Nat) : Except BareFault Value :=
  let digits := cs.takeWhile Char.isDigit
  match cs.drop digits.length with
  | [] => decimalInteger raw [leadingZeroFault cs off]
  | c :: rest =>
    if c == '-' || c == ':' then
      match checkDatetime raw with
      | .ok () => .ok (.datetime (String.ofList raw))
      | .error m => .error ⟨m, 0, byteLength raw⟩
    else if (c :: rest).any fun x => x == '.' || x == 'e' || x == 'E' then
      decimalFloat raw cs off
    else if c == '_' then decimalInteger raw [leadingZeroFault cs off]
    else .error (unquotedFault raw)

/-- An integer in a radix after its two-character prefix at offset `off`: its digits `cs` carry
no sign, and are digits of the radix or underscores. -/
def radixInteger (r : Radix) (cs : List Char) (off : Nat) : Except BareFault Value :=
  let good := cs.takeWhile fun c => r.isDigit c || c == '_'
  let digitFault : Option BareFault := match cs.drop good.length with
    | [] => none
    | _ :: _ => some ⟨r.invalid, off + byteLength good, off + byteLength good⟩
  let signFault : Option BareFault := match cs with
    | '+' :: _ | '-' :: _ => some ⟨"unexpected sign" ++ expectedNothing, off, off + 1⟩
    | _ => none
  firstFault [signFault, digitFault, underscoreFault isHexDigit cs off] (integerValue r cs)

/-- A bare value whose digits, starting with `cs` at `off`, begin with zero; `signed` when a
sign stands before them. -/
def zeroPrefixed (raw cs : List Char) (off : Nat) (signed : Bool) : Except BareFault Value :=
  match cs with
  | ['0'] => decimalInteger raw []
  | '0' :: x :: rest =>
    let radix : Option Radix :=
      if x == 'x' || x == 'X' then some .hexadecimal
      else if x == 'o' || x == 'O' then some .octal
      else if x == 'b' || x == 'B' then some .binary
      else if x == 'd' || x == 'D' then some .decimal
      else none
    match radix with
    | none => numberOrDatetime raw cs off
    | some r =>
      let lower := String.singleton '0' ++ String.singleton x.toLower
      if signed then
        .error ⟨"integers with a radix cannot be signed" ++ expectedNothing, 0, 1⟩
      else if r == .decimal then
        .error ⟨"redundant integer number prefix" ++ expectedNothing, off, off + 2⟩
      else if x.isUpper then
        .error ⟨"radix must be lowercase, expected `" ++ lower ++ "`", off, off + 2⟩
      else radixInteger r rest (off + 2)
  | _ => numberOrDatetime raw cs off

/-- A boolean or a float written as a word, which must be written exactly as `word`. -/
def symbol (raw : List Char) (word : String) (fault : String) (v : Value) :
    Except BareFault Value :=
  if String.ofList raw == word then .ok v
  else .error ⟨fault ++ ", expected `" ++ word ++ "`", 0, byteLength raw⟩

/-- A number after its signs, which start `raw`; the text from the next sign on is `cs`, at
offset `off`. A second sign is refused. -/
def afterSign (raw cs : List Char) (off : Nat) : Except BareFault Value :=
  let n := byteLength raw
  match cs with
  | [] => .error (unquotedFault raw)
  | c :: _ =>
    if c == '+' || c == '-' then
      .error ⟨"redundant numeric sign" ++ expectedNothing, off, off + 1⟩
    else if c == '_' || ('1' ≤ c && c ≤ '9') then numberOrDatetime raw cs off
    else if c == '0' then zeroPrefixed raw cs off true
    else if c == '.' then decimalFloat raw raw 0
    else if c == 'i' || c == 'I' then
      if String.ofList cs == "inf" then .ok (floatValue raw)
      else .error ⟨"invalid float, expected `inf`", off, n⟩
    else if c == 'n' || c == 'N' then
      if String.ofList cs == "nan" then .ok (floatValue raw)
      else .error ⟨"invalid float, expected `nan`", off, n⟩
    else .error (unquotedFault raw)

/-- Whether a bare value is shaped as a date or a time: digits, then `-` or `:`. -/
def datetimeShaped (raw : List Char) : Bool :=
  let digits := raw.takeWhile Char.isDigit
  !digits.isEmpty && match raw.drop digits.length with
    | c :: _ => c == '-' || c == ':'
    | [] => false

/-- The value of a bare value, or its first fault. Only a date and time may hold a blank. -/
def bareValue (raw : List Char) : Except BareFault Value :=
  match raw with
  | [] => .error (unquotedFault raw)
  | c :: rest =>
    if raw.contains ' ' && !datetimeShaped raw then .error (unquotedFault raw)
    else if c == '+' || c == '-' then afterSign raw rest 1
    else if c == '_' || ('1' ≤ c && c ≤ '9') then numberOrDatetime raw raw 0
    else if c == '0' then zeroPrefixed raw raw 0 false
    else if c == '.' then decimalFloat raw raw 0
    else if c == 't' || c == 'T' then symbol raw "true" "invalid boolean" (.boolean true)
    else if c == 'f' || c == 'F' then symbol raw "false" "invalid boolean" (.boolean false)
    else if c == 'i' || c == 'I' then symbol raw "inf" "invalid float" (.float Decimal.infinity)
    else if c == 'n' || c == 'N' then symbol raw "nan" "invalid float" (.float Decimal.nan)
    else .error (unquotedFault raw)

/-- The value of a bare value that starts at byte `start` of the document, or its first fault
there. -/
def decodeBare (raw : List Char) (start : Nat) : Except Error Value :=
  match bareValue raw with
  | .ok v => .ok v
  | .error f => .error ⟨f.message, some ⟨start + f.lo, start + f.hi⟩⟩

end SimRegress.Toml
