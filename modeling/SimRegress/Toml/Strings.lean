import SimRegress.Toml.Token
import SimRegress.Toml.Value

/-!
Reading the text of TOML strings and keys.

A string must end with its closing quotes, whatever stands before them; that is checked before
its body is read. In a basic string a backslash starts an escape: `\b \t \n \f \r \e \" \\`, or
a code point in hexadecimal after `\x` (two digits), `\u` (four) or `\U` (eight), which must be
a Unicode scalar value. No string holds a control character other than tab, except that
multi-line strings hold line breaks; there a carriage return must come before a line feed, and a
line break right after the opening quotes is dropped. In a multi-line basic string a backslash
before a blank or a line break ends its line: only blanks may stand between it and the line
break, and the blanks and line breaks after it are dropped. A bare key is made of ASCII letters,
digits, `-` and `_`, and is not empty; a key is never a multi-line string.
-/

namespace SimRegress.Toml

/-- How a string is quoted: its fault texts, and what its body may hold. -/
structure Quoting where
  /-- The text of a character the body may not hold. -/
  fault : String
  /-- The text of a missing closing quote. -/
  unclosed : String
  /-- The quote character and how many of it open and close the string. -/
  quote : Char
  width : Nat
  escapes : Bool
  multiline : Bool

/-- Whether the body of a string may not hold a character: a control other than tab, or DEL;
line breaks stand in multi-line strings. -/
def Quoting.refuses (q : Quoting) (c : Char) : Bool :=
  isControlFault c && !(q.multiline && (c == '\n' || c == '\r'))

def basicQuoting : Quoting :=
  ⟨"invalid basic string, expected non-double-quote visible characters, `\\`",
    "invalid basic string, expected `\"`", '"', 1, true, false⟩

def literalQuoting : Quoting :=
  ⟨"invalid literal string, expected non-single-quote visible characters",
    "invalid literal string, expected `" ++ String.singleton apostrophe ++ "`", apostrophe, 1,
    false, false⟩

def multiBasicQuoting : Quoting :=
  ⟨"invalid multi-line basic string, expected `\\`, characters",
    "invalid multi-line basic string, expected `\"`", '"', 3, true, true⟩

def multiLiteralQuoting : Quoting :=
  ⟨"invalid multi-line literal string, expected non-single-quote characters",
    "invalid multi-line literal string, expected `" ++ String.singleton apostrophe ++ "`",
    apostrophe, 3, false, true⟩

def isHexDigit (c : Char) : Bool :=
  c.isDigit || ('a' ≤ c && c ≤ 'f') || ('A' ≤ c && c ≤ 'F')

def hexDigitValue (c : Char) : Nat :=
  if c.isDigit then c.toNat - 48 else if 'a' ≤ c && c ≤ 'f' then c.toNat - 87 else c.toNat - 55

def hexValue (cs : List Char) : Nat := cs.foldl (fun n c => n * 16 + hexDigitValue c) 0

/-- Whether a number is a Unicode scalar value. -/
def isScalarValue (n : Nat) : Bool := n < 0xD800 || (0xDFFF < n && n < 0x110000)

/-- The fault of a backslash followed by nothing that it escapes. -/
def missingEscape : String :=
  "missing escaped value, expected `b`, `e`, `f`, `n`, `r`, `\\`, `\"`, `x`, `u`, `U`"

/-- The character of a code point written with `n` hexadecimal digits, which start at offset
`p`, and the text after them. -/
def hexEscape (n : Nat) (r : List Char) (p : Nat) : Except Error (Char × List Char × Nat) :=
  let digits := (r.takeWhile isHexDigit).take n
  if digits.length < n then
    .error ⟨"too few unicode value digits, expected unicode hexadecimal value",
      some ⟨p + digits.length, p + digits.length⟩⟩
  else if isScalarValue (hexValue digits) then .ok (Char.ofNat (hexValue digits), r.drop n, p + n)
  else .error ⟨"invalid value, expected unicode hexadecimal value", some ⟨p, p⟩⟩

/-- The character of the escape after a backslash, whose next character is at offset `p`, the
text after it and its offset. -/
def escape (r : List Char) (p : Nat) : Except Error (Char × List Char × Nat) :=
  match r with
  | 'b' :: r => .ok ('\x08', r, p + 1)
  | 't' :: r => .ok ('\t', r, p + 1)
  | 'n' :: r => .ok ('\n', r, p + 1)
  | 'f' :: r => .ok ('\x0c', r, p + 1)
  | 'r' :: r => .ok ('\r', r, p + 1)
  | 'e' :: r => .ok ('\x1b', r, p + 1)
  | '"' :: r => .ok ('"', r, p + 1)
  | '\\' :: r => .ok ('\\', r, p + 1)
  | 'x' :: r => hexEscape 2 r (p + 1)
  | 'u' :: r => hexEscape 4 r (p + 1)
  | 'U' :: r => hexEscape 8 r (p + 1)
  | _ => .error ⟨missingEscape, some ⟨p, p⟩⟩

/-- Whether a character is a space or a tab. -/
def isBlank (c : Char) : Bool := c == ' ' || c == '\t'

/-- Skips the blanks and line breaks at offset `p`, refusing a carriage return alone; gives the
text after them and its offset. -/
def skipBreaks : List Char → Nat → Except Error (List Char × Nat)
  | '\r' :: '\n' :: r, p => skipBreaks r (p + 2)
  | '\r' :: _, p => .error ⟨loneCarriageReturn, some ⟨p + 1, p + 1⟩⟩
  | c :: r, p => if isBlank c || c == '\n' then skipBreaks r (p + 1) else .ok (c :: r, p)
  | [], p => .ok ([], p)

/-- A backslash that ends its line, followed by blanks at offset `p`: after the blanks must come a
line break, and the blanks and line breaks after it are dropped. Gives the text after them and
its offset. -/
def lineEnding (r : List Char) (p : Nat) : Except Error (List Char × Nat) :=
  let blanks := r.takeWhile isBlank
  let p := p + blanks.length
  match r.drop blanks.length with
  | '\n' :: rest => skipBreaks rest (p + 1)
  | '\r' :: '\n' :: rest => skipBreaks rest (p + 2)
  | '\r' :: _ => .error ⟨loneCarriageReturn, some ⟨p + 1, p + 1⟩⟩
  | _ => .error ⟨"invalid multi-line basic string, expected newline", some ⟨p, p⟩⟩

/-- Reads the body of a string from offset `pos`, the characters read so far last first; `fuel`
bounds the steps. A fault of a basic string points at the whole run of characters it may not
hold, one of a literal string at the first of them. -/
def bodyLoop (q : Quoting) : Nat → List Char → Nat → List Char → Except Error String
  | 0, _, _, acc => .ok (String.ofList acc.reverse)
  | _, [], _, acc => .ok (String.ofList acc.reverse)
  | fuel + 1, c :: r, pos, acc =>
    if q.escapes && c == '\\' then
      if q.multiline && (r.head?.map fun x => isBlank x || x == '\n' || x == '\r') == some true
      then
        match lineEnding r (pos + 1) with
        | .ok (rest, p) => bodyLoop q fuel rest p acc
        | .error e => .error e
      else
        match escape r (pos + 1) with
        | .ok (ch, rest, p) => bodyLoop q fuel rest p (ch :: acc)
        | .error e => .error e
    else if q.multiline && c == '\r' then
      match r with
      | '\n' :: r' => bodyLoop q fuel r' (pos + 2) ('\n' :: '\r' :: acc)
      | _ => .error ⟨loneCarriageReturn, some ⟨pos + 1, pos + 1⟩⟩
    else if q.multiline && c == '\n' then bodyLoop q fuel r (pos + 1) ('\n' :: acc)
    else if q.refuses c then
      let run := if q.escapes then c :: r.takeWhile q.refuses else [c]
      .error ⟨q.fault, some ⟨pos, pos + byteLength run⟩⟩
    else bodyLoop q fuel r (pos + c.utf8Size) (c :: acc)

/-- The text of a string token quoted as `q`. -/
def readQuoted (q : Quoting) (t : Token) : Except Error String :=
  let closing := List.replicate q.width q.quote
  let inner := t.text.drop q.width
  if inner.length < q.width || inner.drop (inner.length - q.width) != closing then
    .error ⟨q.unclosed, some ⟨t.stop, t.stop⟩⟩
  else
    let body := inner.take (inner.length - q.width)
    let start := t.start + q.width
    let (body, start) :=
      if !q.multiline then (body, start)
      else match body with
        | '\n' :: b => (b, start + 1)
        | '\r' :: '\n' :: b => (b, start + 2)
        | _ => (body, start)
    bodyLoop q (body.length + 1) body start []

/-- What bare keys may hold, in a message. -/
def keyCharsExpected : String := ", expected letters, numbers, `-`, `_`"

/-- Whether a character may stand in a bare key. -/
def isKeyChar (c : Char) : Bool := c.isAlphanum || c == '_' || c == '-'

/-- The text of a bare key. A fault points at the first run of characters that may not stand
in a bare key. -/
def readBareKey (t : Token) : Except Error String :=
  if t.text.isEmpty then
    .error ⟨"unquoted keys cannot be empty" ++ keyCharsExpected, some ⟨t.start, t.start⟩⟩
  else
    let good := t.text.takeWhile isKeyChar
    match t.text.drop good.length with
    | [] => .ok (String.ofList t.text)
    | rest =>
      let p := t.start + byteLength good
      let bad := rest.takeWhile fun c => !isKeyChar c
      .error ⟨"invalid unquoted key" ++ keyCharsExpected, some ⟨p, p + byteLength bad⟩⟩

def Token.readString (t : Token) : Except Error String :=
  match t.kind with
  | .literalString => readQuoted literalQuoting t
  | .multiBasicString => readQuoted multiBasicQuoting t
  | .multiLiteralString => readQuoted multiLiteralQuoting t
  | _ => readQuoted basicQuoting t

/-- The text of a part of a key. -/
def Token.readKey (t : Token) : Except Error String :=
  match t.kind with
  | .basicString | .literalString => t.readString
  | .multiBasicString | .multiLiteralString =>
    .error ⟨"keys cannot be multi-line " ++ (if t.kind == .multiBasicString then "basic" else
      "literal") ++ " strings, expected basic string, literal string", some ⟨t.start, t.stop⟩⟩
  | _ => readBareKey t

end SimRegress.Toml
