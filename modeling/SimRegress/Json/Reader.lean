import SimRegress.Json.Value
import SimRegress.Text.Escaped

/-!
Reading JSON text, with the failure reported at a line and a column.

A `Reader` walks a `Cursor`: the characters not read yet and the number of bytes read. It fails
with a `Failure`, a `Fault` and the byte offset it is reported at. A fault found on the next
character, not yet read, is reported one byte further on (`failAhead`); a fault about a whole
value, such as a value of the wrong type, has no offset of its own and takes the offset at the
end of the innermost value around it (`fixPosition`). The line counts line feeds before the
offset; the column counts the bytes since the last one.

Containers are read in three steps, each of which can fail: the nesting limit is checked, the
body is read, and the closing bracket is expected, the last even after a body that failed, so
that the offset of a failure without one is taken after it. Numbers keep 64 bits of significand;
further digits only move the decimal exponent, and the value is the significand scaled by a power
of ten in binary64 arithmetic.
-/

namespace SimRegress.Json

/-- Why reading failed. -/
inductive Fault where
  | eofList
  | eofObject
  | eofString
  | eofValue
  | expectedColon
  | expectedListCommaOrEnd
  | expectedObjectCommaOrEnd
  | expectedIdent
  | expectedValue
  | invalidEscape
  | invalidNumber
  | numberOutOfRange
  | controlCharacter
  | keyMustBeString
  | loneLeadingSurrogate
  | trailingComma
  | trailingCharacters
  | unexpectedEndOfHexEscape
  | recursionLimit
  /-- A fault about the meaning of a value, with its text. -/
  | custom (message : String)
  deriving Repr, DecidableEq

def Fault.message : Fault → String
  | .eofList => "EOF while parsing a list"
  | .eofObject => "EOF while parsing an object"
  | .eofString => "EOF while parsing a string"
  | .eofValue => "EOF while parsing a value"
  | .expectedColon => "expected `:`"
  | .expectedListCommaOrEnd => "expected `,` or `]`"
  | .expectedObjectCommaOrEnd => "expected `,` or `\x7d`"
  | .expectedIdent => "expected ident"
  | .expectedValue => "expected value"
  | .invalidEscape => "invalid escape"
  | .invalidNumber => "invalid number"
  | .numberOutOfRange => "number out of range"
  | .controlCharacter => "control character (\\u0000-\\u001F) found while parsing a string"
  | .keyMustBeString => "key must be a string"
  | .loneLeadingSurrogate => "lone leading surrogate in hex escape"
  | .trailingComma => "trailing comma"
  | .trailingCharacters => "trailing characters"
  | .unexpectedEndOfHexEscape => "unexpected end of hex escape"
  | .recursionLimit => "recursion limit exceeded"
  | .custom m => m

/-- A fault and the byte offset it is reported at, if it has one yet. -/
structure Failure where
  fault : Fault
  offset : Option Nat
  deriving Repr

/-- The line and column of a byte offset: lines count from one, columns count the bytes since
the last line feed. -/
def lineColumn (text : String) (offset : Nat) : Nat × Nat :=
  (text.toUTF8.toList.take offset).foldl
    (fun (lc : Nat × Nat) b => if b == 10 then (lc.1 + 1, 0) else (lc.1, lc.2 + 1)) (1, 0)

/-- The text of a failure in reading `text`. -/
def Failure.render (text : String) (e : Failure) : String :=
  match e.offset with
  | none => e.fault.message
  | some off =>
    let (line, column) := lineColumn text off
    e.fault.message ++ " at line " ++ Decimal.digitsText line ++ " column " ++
      Decimal.digitsText column

/-- The characters not read yet, the number of bytes read, and the number of characters of the
whole text, which bounds every loop of a reader. -/
structure Cursor where
  rest : List Char
  pos : Nat
  bound : Nat

/-- A reading step: it may fail, and the cursor it leaves stays visible after a failure. -/
abbrev Reader := ExceptT Failure (StateM Cursor)

def Reader.runOn (r : Reader α) (text : String) : Except Failure α × Cursor :=
  (ExceptT.run r).run ⟨text.toList, 0, text.length⟩

def peek : Reader (Option Char) := do return (← get).rest.head?

def eat : Reader Unit :=
  modify fun c => match c.rest with
    | [] => c
    | x :: r => { c with rest := r, pos := c.pos + x.utf8Size }

def failAt (f : Fault) (off : Nat) : Reader α := throw ⟨f, some off⟩

def failHere (f : Fault) : Reader α := do failAt f (← get).pos

/-- Fails on the next character: one byte further on, unless the text has ended. -/
def failAhead (f : Fault) : Reader α := do
  let c ← get
  failAt f (if c.rest.isEmpty then c.pos else c.pos + 1)

/-- Fails without an offset; the innermost value around takes care of it. -/
def failLoose (f : Fault) : Reader α := throw ⟨f, none⟩

/-- Gives a failure without an offset the current one. -/
def fixPosition (x : Reader α) : Reader α :=
  tryCatch x fun e => do
    match e.offset with
    | some _ => throw e
    | none => failAt e.fault (← get).pos

/-- Runs a step and hands its failure back as a value, keeping the cursor where it stopped. -/
def attempt (x : Reader α) : Reader (Except Failure α) :=
  tryCatch (Except.ok <$> x) fun e => pure (.error e)

/-- Runs a body and then a closing step, even after a failed body; the body's failure wins. -/
def thenClose (body : Reader α) (close : Reader Unit) : Reader α := do
  let r ← attempt body
  let c ← attempt close
  match r, c with
  | .ok a, .ok () => pure a
  | .error e, _ => throw e
  | .ok _, .error e => throw e

def isBlank (c : Char) : Bool := c == ' ' || c == '\n' || c == '\t' || c == '\r'

def skipBlank : Reader (Option Char) := do
  let c ← get
  let n := (c.rest.takeWhile isBlank).length
  let r := c.rest.drop n
  set { c with rest := r, pos := c.pos + n }
  return r.head?

/-- Reads the rest of a literal word, character by character. -/
def ident : List Char → Reader Unit
  | [] => pure ()
  | e :: es => do
    match (← get).rest with
    | [] => failHere .eofValue
    | c :: _ =>
      eat
      if c == e then ident es else failHere .expectedIdent

/-! ### Strings -/

def hexDigit? (c : Char) : Option Nat :=
  if '0' ≤ c ∧ c ≤ '9' then some (c.toNat - '0'.toNat)
  else if 'a' ≤ c ∧ c ≤ 'f' then some (c.toNat - 'a'.toNat + 10)
  else if 'A' ≤ c ∧ c ≤ 'F' then some (c.toNat - 'A'.toNat + 10)
  else none

def byteSize (cs : List Char) : Nat := cs.foldl (fun n c => n + c.utf8Size) 0

/-- Reads the four hexadecimal digits of an escape at byte offset `off`. Four bytes that are not
all digits are an invalid escape, reported after them; fewer than four bytes end the text. -/
def hexQuad (cs : List Char) (off : Nat) : Except (Fault × Nat) (Nat × List Char) :=
  if byteSize (cs.take 4) < 4 then .error (.eofString, off + byteSize cs)
  else
    match cs with
    | a :: b :: c :: d :: r =>
      match hexDigit? a, hexDigit? b, hexDigit? c, hexDigit? d with
      | some w, some x, some y, some z => .ok (((w * 16 + x) * 16 + y) * 16 + z, r)
      | _, _, _, _ => .error (.invalidEscape, off + 4)
    | _ => .error (.invalidEscape, off + 4)

def isTrailing (n : Nat) : Bool := 0xDC00 ≤ n && n ≤ 0xDFFF

def isLeading (n : Nat) : Bool := 0xD800 ≤ n && n ≤ 0xDBFF

/-- The character of a `\u` escape at byte offset `off` (after the `u`), or of an escaped pair of
surrogates; returns it, the rest, and the offset after it. -/
def unicodeEscape (cs : List Char) (off : Nat) : Except (Fault × Nat) (Char × List Char × Nat) :=
  match hexQuad cs off with
  | .error e => .error e
  | .ok (n, r) =>
    let off := off + 4
    if isTrailing n then .error (.loneLeadingSurrogate, off)
    else if isLeading n then
      match r with
      | [] => .error (.eofString, off)
      | '\\' :: r' =>
        match r' with
        | [] => .error (.eofString, off + 1)
        | 'u' :: r'' =>
          match hexQuad r'' (off + 2) with
          | .error e => .error e
          | .ok (n2, r3) =>
            if isTrailing n2 then
              .ok (Char.ofNat ((n - 0xD800) * 0x400 + (n2 - 0xDC00) + 0x10000), r3, off + 6)
            else .error (.loneLeadingSurrogate, off + 6)
        | _ :: _ => .error (.unexpectedEndOfHexEscape, off + 2)
      | _ :: _ => .error (.unexpectedEndOfHexEscape, off + 1)
    else .ok (Char.ofNat n, r, off)

def shortEscape (c : Char) : Option Char :=
  match c with
  | '"' => some '"'
  | '\\' => some '\\'
  | '/' => some '/'
  | 'b' => some '\x08'
  | 'f' => some '\x0c'
  | 'n' => some '\n'
  | 'r' => some '\r'
  | 't' => some '\t'
  | _ => none

/-- Scans the body of a string up to its closing quote, from byte offset `off`. With `strict` the
body is read as text: surrogate escapes must pair up, and a control character is reported after
itself. Otherwise it is only skipped: a `\u` escape needs four hexadecimal digits and nothing
more, and a control character is reported before itself. Returns the characters in reverse, the
rest after the quote and the offset after it. -/
def scanBody (strict : Bool) : Nat → List Char → List Char → Nat →
    Except (Fault × Nat) (List Char × List Char × Nat)
  | 0, _, _, off => .error (.eofString, off)
  | fuel + 1, acc, cs, off =>
    match cs with
    | [] => .error (.eofString, off)
    | '"' :: r => .ok (acc, r, off + 1)
    | '\\' :: r =>
      match r with
      | [] => .error (.eofString, off + 1)
      | e :: r' =>
        match shortEscape e with
        | some c => scanBody strict fuel (c :: acc) r' (off + 2)
        | none =>
          if e == 'u' then
            if strict then
              match unicodeEscape r' (off + 2) with
              | .error f => .error f
              | .ok (c, r'', off') => scanBody strict fuel (c :: acc) r'' off'
            else
              match hexQuad r' (off + 2) with
              | .error f => .error f
              | .ok (_, r'') => scanBody strict fuel acc r'' (off + 6)
          else .error (.invalidEscape, off + 2)
    | c :: r =>
      if c.toNat < 0x20 then .error (.controlCharacter, if strict then off + 1 else off)
      else scanBody strict fuel (c :: acc) r (off + c.utf8Size)

/-- Reads the rest of a string whose opening quote has been read. -/
def readString : Reader String := do
  let c ← get
  match scanBody true (c.bound + 1) [] c.rest c.pos with
  | .ok (acc, r, off) =>
    set { c with rest := r, pos := off }
    return String.ofList acc.reverse
  | .error (f, off) => failAt f off

/-- Skips the rest of a string whose opening quote has been read. -/
def skipString : Reader Unit := do
  let c ← get
  match scanBody false (c.bound + 1) [] c.rest c.pos with
  | .ok (_, r, off) => set { c with rest := r, pos := off }
  | .error (f, off) => failAt f off

/-! ### Numbers -/

def digitVal (c : Char) : Nat := c.toNat - '0'.toNat

def maxSignificand : Nat := 18446744073709551615

/-- `10 * sig + d` stays within 64 bits. -/
def fitsNext (sig d : Nat) : Bool :=
  !(sig ≥ maxSignificand / 10 && (sig > maxSignificand / 10 || d > maxSignificand % 10))

/-- Takes digits into a significand as long as it stays within 64 bits: the significand, how
many digits were taken, and the rest. -/
def takeSignificand (sig : Nat) : List Char → Nat × Nat × List Char
  | [] => (sig, 0, [])
  | c :: r =>
    if c.isDigit && fitsNext sig (digitVal c) then
      let (s, k, r') := takeSignificand (10 * sig + digitVal c) r
      (s, k + 1, r')
    else (sig, 0, c :: r)

def pow10 (i : Nat) : Float := Float.ofScientific 1 false i

def natToFloat (n : Nat) : Float := Float.ofScientific n false 0

/-- Scales by `10^e` in binary64 steps: one multiplication or division by a power of ten up to
`10^308`, dividing by `10^308` first while the exponent is below `-308`. Fails when the result
overflows or the exponent is beyond `308` for a non-zero value. -/
def scaleBy (f : Float) : Nat → Int → Option Float
  | 0, _ => some f
  | fuel + 1, e =>
    if e.natAbs ≤ 308 then
      if 0 ≤ e then
        let g := f * pow10 e.natAbs
        if g.isInf then none else some g
      else some (f / pow10 e.natAbs)
    else if f == 0.0 then some f
    else if 0 ≤ e then none
    else scaleBy (f / pow10 308) fuel (e + 308)

/-- Offsets in a number's text count from its first digit; a result is the number and the bytes
it took, a failure the fault and its offset. -/
abbrev NumberScan := Except (Fault × Nat) (Number × Nat)

/-- The value `sig * 10^e` with a sign, or out of range. -/
def fromParts (positive : Bool) (sig : Nat) (e : Int) (k : Nat) : NumberScan :=
  match scaleBy (natToFloat sig) 8 e with
  | some f => .ok (.float (if positive then f else -f), k)
  | none => .error (.numberOutOfRange, k)

def clampExponent (x : Int) : Int := max (-2147483648) (min 2147483647 x)

/-- `10 * e + d` stays within the 32-bit signed range. -/
def fitsExponent (e d : Nat) : Bool := !(e ≥ 214748364 && (e > 214748364 || d > 7))

/-- The digits of an exponent. An exponent beyond 32 bits makes a number with a non-zero
significand and a positive exponent out of range, and every other number a zero. -/
def exponentDigits (positive positiveExp : Bool) (sig : Nat) (start : Int) :
    Nat → List Char → Nat → NumberScan
  | e, c :: r, k =>
    if c.isDigit then
      if fitsExponent e (digitVal c) then exponentDigits positive positiveExp sig start
        (10 * e + digitVal c) r (k + 1)
      else if sig != 0 && positiveExp then .error (.numberOutOfRange, k + 1)
      else .ok (.float (if positive then 0.0 else -0.0), k + 1 + (r.takeWhile Char.isDigit).length)
    else
      fromParts positive sig (clampExponent (if positiveExp then start + e else start - e)) k
  | e, [], k => fromParts positive sig (clampExponent (if positiveExp then start + e else start - e)) k

def scanExponent (positive : Bool) (sig : Nat) (start : Int) (cs : List Char) (k : Nat) :
    NumberScan :=
  let (positiveExp, r, k') := match cs.drop 1 with
    | '+' :: r => (true, r, k + 2)
    | '-' :: r => (false, r, k + 2)
    | r => (true, r, k + 1)
  match r with
  | [] => .error (.eofValue, k')
  | c :: r' =>
    if c.isDigit then exponentDigits positive positiveExp sig start (digitVal c) r' (k' + 1)
    else .error (.invalidNumber, k' + 1)

/-- Digits beyond the 64 bits of the significand after the point: skipped. -/
def decimalOverflow (positive : Bool) (sig : Nat) (e : Int) (cs : List Char) (k : Nat) :
    NumberScan :=
  let n := (cs.takeWhile Char.isDigit).length
  let r := cs.drop n
  match r with
  | c :: _ => if c == 'e' || c == 'E' then scanExponent positive sig e r (k + n)
    else fromParts positive sig e (k + n)
  | [] => fromParts positive sig e (k + n)

/-- A fraction, at the point; at least one digit must follow it. -/
def scanDecimal (positive : Bool) (sig : Nat) (before : Int) (cs : List Char) (k : Nat) :
    NumberScan :=
  let r1 := cs.drop 1
  let (sig', taken, r2) := takeSignificand sig r1
  let k' := k + 1 + taken
  let e := before - taken
  match r2 with
  | c :: _ =>
    if c.isDigit then decimalOverflow positive sig' e r2 k'
    else if taken == 0 then .error (.invalidNumber, k' + 1)
    else if c == 'e' || c == 'E' then scanExponent positive sig' e r2 k'
    else fromParts positive sig' e k'
  | [] => if taken == 0 then .error (.eofValue, k') else fromParts positive sig' e k'

/-- Integer digits beyond the 64 bits of the significand: skipped, each raising the exponent. -/
def longInteger (positive : Bool) (sig : Nat) (cs : List Char) (k : Nat) : NumberScan :=
  let n := (cs.takeWhile Char.isDigit).length
  let r := cs.drop n
  match r with
  | c :: _ =>
    if c == '.' then scanDecimal positive sig n r (k + n)
    else if c == 'e' || c == 'E' then scanExponent positive sig n r (k + n)
    else fromParts positive sig n (k + n)
  | [] => fromParts positive sig n (k + n)

/-- After the integer digits: a fraction, an exponent, or an integer. A negative integer that
does not fit 64 bits, and `-0`, become floats. -/
def scanTail (positive : Bool) (sig : Nat) (cs : List Char) (k : Nat) : NumberScan :=
  let whole : NumberScan :=
    if positive then .ok (.nat sig, k)
    else if sig == 0 || sig > Nat.pow 2 63 then .ok (.float (-(natToFloat sig)), k)
    else .ok (.neg (-(sig : Int)), k)
  match cs with
  | c :: _ =>
    if c == '.' then scanDecimal positive sig 0 cs k
    else if c == 'e' || c == 'E' then scanExponent positive sig 0 cs k
    else whole
  | [] => whole

/-- A number without its sign: one `0`, or digits not starting with `0`, then the tail. -/
def scanNumber (positive : Bool) (cs : List Char) : NumberScan :=
  match cs with
  | [] => .error (.eofValue, 0)
  | c :: r =>
    if c == '0' then
      if r.head?.any Char.isDigit then .error (.invalidNumber, 2) else scanTail positive 0 r 1
    else if c.isDigit then
      let (sig, k, r') := takeSignificand (digitVal c) r
      if r'.head?.any Char.isDigit then longInteger positive sig r' (1 + k)
      else scanTail positive sig r' (1 + k)
    else .error (.invalidNumber, 1)

/-- Reads a number whose sign, if any, has been read. -/
def readNumber (positive : Bool) : Reader Number := do
  let c ← get
  match scanNumber positive c.rest with
  | .ok (n, k) =>
    set { c with rest := c.rest.drop k, pos := c.pos + k }
    return n
  | .error (f, k) => failAt f (c.pos + k)

/-- Skips the digits and exponent of a number that is not kept: its value is not computed, so it
is never out of range. Returns the bytes taken. -/
def skipNumber (cs : List Char) : Except (Fault × Nat) Nat :=
  let exponent (r : List Char) (k : Nat) : Except (Fault × Nat) Nat :=
    let (r, k) := match r.drop 1 with
      | '+' :: r' => (r', k + 2)
      | '-' :: r' => (r', k + 2)
      | r' => (r', k + 1)
    match r with
    | c :: r' => if c.isDigit then .ok (k + 1 + (r'.takeWhile Char.isDigit).length)
      else .error (.invalidNumber, k + 1)
    | [] => .error (.invalidNumber, k)
  let afterWhole (r : List Char) (k : Nat) : Except (Fault × Nat) Nat :=
    match r with
    | '.' :: r' =>
      let n := (r'.takeWhile Char.isDigit).length
      let r'' := r'.drop n
      if n == 0 then .error (.invalidNumber, if r''.isEmpty then k + 1 else k + 2)
      else match r'' with
        | c :: _ => if c == 'e' || c == 'E' then exponent r'' (k + 1 + n) else .ok (k + 1 + n)
        | [] => .ok (k + 1 + n)
    | c :: _ => if c == 'e' || c == 'E' then exponent r k else .ok k
    | [] => .ok k
  match cs with
  | [] => .error (.invalidNumber, 0)
  | c :: r =>
    if c == '0' then
      if r.head?.any Char.isDigit then .error (.invalidNumber, 2) else afterWhole r 1
    else if c.isDigit then
      let n := (r.takeWhile Char.isDigit).length
      afterWhole (r.drop n) (1 + n)
    else .error (.invalidNumber, 1)

/-- Skips a number whose sign, if any, has been read. -/
def skipNumberHere : Reader Unit := do
  let c ← get
  match skipNumber c.rest with
  | .ok k => set { c with rest := c.rest.drop k, pos := c.pos + k }
  | .error (f, k) => failAt f (c.pos + k)

/-! ### Faults about values -/

/-- What a value turned out to be, for a fault about its type. -/
inductive Unexpected where
  | null
  | bool (b : Bool)
  | unsigned (n : Nat)
  | signed (n : Int)
  | float (x : Float)
  | str (s : String)
  | seq
  | map

def Unexpected.describe : Unexpected → String
  | .null => "null"
  | .bool b => "boolean `" ++ (if b then "true" else "false") ++ "`"
  | .unsigned n => "integer `" ++ Decimal.digitsText n ++ "`"
  | .signed n => "integer `" ++ (if n < 0 then "-" else "") ++ Decimal.digitsText n.natAbs ++ "`"
  | .float x => "floating point `" ++ numberStyle.render x ++ "`"
  | .str s => "string " ++ Text.quoted s
  | .seq => "sequence"
  | .map => "map"

/-- What a number is, for a fault about its type. -/
def Number.unexpected : Number → Unexpected
  | .nat n => .unsigned n
  | .neg n => .signed n
  | .float x => .float x

/-- What a value is, for a fault about its type. -/
def Value.unexpected : Value → Unexpected
  | .null => .null
  | .bool b => .bool b
  | .num n => n.unexpected
  | .str s => .str s
  | .arr _ => .seq
  | .obj _ => .map

def invalidType (u : Unexpected) (expecting : String) : Fault :=
  .custom ("invalid type: " ++ u.describe ++ ", expected " ++ expecting)

/-- A value of the right type out of its range. -/
def invalidValue (u : Unexpected) (expecting : String) : Fault :=
  .custom ("invalid value: " ++ u.describe ++ ", expected " ++ expecting)

/-- Reads the value at the cursor far enough to name it, then fails because a value of another
kind was expected. An array or an object is named by its bracket alone. -/
def mismatch (expecting : String) : Reader α := do
  let u ← match ← peek with
    | some 'n' => do eat; ident ['u', 'l', 'l']; pure Unexpected.null
    | some 't' => do eat; ident ['r', 'u', 'e']; pure (Unexpected.bool true)
    | some 'f' => do eat; ident ['a', 'l', 's', 'e']; pure (Unexpected.bool false)
    | some '-' => do eat; pure (← readNumber false).unexpected
    | some '"' => do eat; pure (Unexpected.str (← readString))
    | some '[' => pure Unexpected.seq
    | some '{' => pure Unexpected.map
    | some c =>
      if c.isDigit then do pure (← readNumber true).unexpected else failAhead .expectedValue
    | none => failAhead .expectedValue
  failHere (invalidType u expecting)

/-! ### Sequences and maps -/

/-- Whether another item follows in a sequence; reads the comma before it. -/
def nextItem (first : Bool) : Reader Bool := do
  match ← skipBlank with
  | none => failAhead .eofList
  | some ']' => pure false
  | some c =>
    if first then pure true
    else if c == ',' then do
      eat
      match ← skipBlank with
      | some ']' => failAhead .trailingComma
      | some _ => pure true
      | none => failAhead .eofValue
    else failAhead .expectedListCommaOrEnd

def itemsLoop (item : Reader α) : Nat → Bool → List α → Reader (List α)
  | 0, _, acc => pure acc.reverse
  | fuel + 1, first, acc => do
    if ← nextItem first then do
      let x ← item
      itemsLoop item fuel false (x :: acc)
    else pure acc.reverse

/-- Reads the items of a sequence, each with `item`, up to its closing bracket. Each item takes
at least one character, which bounds their number. -/
def items (item : Reader α) : Reader (List α) := do
  itemsLoop item ((← get).bound + 1) true []

/-- Whether another member follows in an object; reads the comma before it. -/
def nextKey (first : Bool) : Reader Bool := do
  match ← skipBlank with
  | none => failAhead .eofObject
  | some '}' => pure false
  | some c =>
    if first then (if c == '"' then pure true else failAhead .keyMustBeString)
    else if c == ',' then do
      eat
      match ← skipBlank with
      | some '"' => pure true
      | some '}' => failAhead .trailingComma
      | some _ => failAhead .keyMustBeString
      | none => failAhead .eofValue
    else failAhead .expectedObjectCommaOrEnd

/-- Reads a member's key, at its opening quote. -/
def readKey : Reader String := do
  eat
  readString

def colon : Reader Unit := do
  match ← skipBlank with
  | some ':' => eat
  | some _ => failAhead .expectedColon
  | none => failAhead .eofObject

def membersLoop (value : Reader α) : Nat → Bool → List (String × α) → Reader (List (String × α))
  | 0, _, acc => pure acc.reverse
  | fuel + 1, first, acc => do
    if ← nextKey first then do
      let k ← readKey
      colon
      let v ← value
      membersLoop value fuel false ((k, v) :: acc)
    else pure acc.reverse

/-- Reads the members of an object, each value with `value`, up to its closing brace. -/
def members (value : Reader α) : Reader (List (String × α)) := do
  membersLoop value ((← get).bound + 1) true []

def closeSeq : Reader Unit := do
  match ← skipBlank with
  | some ']' => eat
  | some ',' => do
    eat
    match ← skipBlank with
    | some ']' => failAhead .trailingComma
    | _ => failAhead .trailingCharacters
  | some _ => failAhead .trailingCharacters
  | none => failAhead .eofList

def closeMap : Reader Unit := do
  match ← skipBlank with
  | some '}' => eat
  | some ',' => failAhead .trailingComma
  | some _ => failAhead .trailingCharacters
  | none => failAhead .eofObject

/-- Opens a container at its bracket with `remaining` levels of nesting left, reads its body with
one level less, and closes it. No level left is a fault, reported at the bracket. -/
def nested (remaining : Nat) (body : Reader α) (close : Reader Unit) : Reader α :=
  if remaining ≤ 1 then failAhead .recursionLimit
  else do
    eat
    thenClose body close

/-! ### Values -/

/-- Reads any value with `remaining` levels of nesting left (the outermost value has 128). -/
def readAny : Nat → Reader Value
  | 0 => failAhead .recursionLimit
  | d + 1 => fixPosition do
    match ← skipBlank with
    | none => failAhead .eofValue
    | some 'n' => do eat; ident ['u', 'l', 'l']; pure .null
    | some 't' => do eat; ident ['r', 'u', 'e']; pure (.bool true)
    | some 'f' => do eat; ident ['a', 'l', 's', 'e']; pure (.bool false)
    | some '-' => do eat; pure (.num (← readNumber false))
    | some '"' => do eat; pure (.str (← readString))
    | some '[' => nested (d + 1) (.arr <$> items (readAny d)) closeSeq
    | some '{' => nested (d + 1) (.obj <$> members (readAny d)) closeMap
    | some c => if c.isDigit then do pure (.num (← readNumber true)) else failAhead .expectedValue

def depthLimit : Nat := 128

def finish : Reader Unit := do
  match ← skipBlank with
  | some _ => failAhead .trailingCharacters
  | none => pure ()

/-- After a value inside the bracket `frame`, with `stack` the brackets around it: reads a comma
and returns the bracket that the next value belongs to, or closes brackets; `none` once the
outermost bracket is closed. Before the first value of a container no comma is expected. -/
def closeFrames : Nat → Bool → Char → List Char → Reader (Option (Char × List Char))
  | 0, _, _, _ => pure none
  | fuel + 1, comma, frame, stack => do
    match ← skipBlank with
    | some c =>
      if c == ',' && comma then do eat; pure (some (frame, stack))
      else if (c == ']' && frame == '[') || (c == '}' && frame == '{') then do
        eat
        match stack with
        | [] => pure none
        | b :: s => closeFrames fuel true b s
      else if comma then
        failAhead (if frame == '[' then .expectedListCommaOrEnd else .expectedObjectCommaOrEnd)
      else pure (some (frame, stack))
    | none => failAhead (if frame == '[' then .eofList else .eofObject)

/-- Skips a value without keeping it: arrays and objects are walked with a stack of open
brackets, numbers are not computed, and there is no nesting limit. `enclosing` is the bracket
the value stands in, `stack` the brackets around that one. -/
def skipValueLoop : Nat → List Char → Option Char → Reader Unit
  | 0, _, _ => pure ()
  | fuel + 1, stack, enclosing => do
    let opened ← match ← skipBlank with
      | none => failAhead .eofValue
      | some 'n' => do eat; ident ['u', 'l', 'l']; pure none
      | some 't' => do eat; ident ['r', 'u', 'e']; pure none
      | some 'f' => do eat; ident ['a', 'l', 's', 'e']; pure none
      | some '-' => do eat; skipNumberHere; pure none
      | some '"' => do eat; skipString; pure none
      | some '[' => do eat; pure (some '[')
      | some '{' => do eat; pure (some '{')
      | some c => if c.isDigit then do skipNumberHere; pure none else failAhead .expectedValue
    let start : Option (Bool × Char × List Char) := match opened with
      | some b => some (false, b, enclosing.toList ++ stack)
      | none => match enclosing with
        | some b => some (true, b, stack)
        | none => match stack with
          | b :: s => some (true, b, s)
          | [] => none
    match start with
    | none => pure ()
    | some (comma, frame, stack) =>
      match ← closeFrames (← get).bound comma frame stack with
      | none => pure ()
      | some (frame, stack) =>
        if frame == '{' then do
          match ← skipBlank with
          | some '"' => eat
          | some _ => failAhead .keyMustBeString
          | none => failAhead .eofValue
          skipString
          colon
        skipValueLoop fuel stack (some frame)

def skipValue : Reader Unit := do
  skipValueLoop ((← get).bound + 1) [] none

/-- Reads a whole text as one value. -/
def Value.read (text : String) : Except String Value :=
  match (Reader.runOn (do let v ← readAny depthLimit; finish; pure v) text).1 with
  | .ok v => .ok v
  | .error e => .error (e.render text)

end SimRegress.Json
