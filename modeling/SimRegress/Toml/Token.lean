/-!
The tokens of a TOML document.

A document is cut into tokens before anything else is read, and no text is refused here:
whatever a token holds is judged when it is read. Blanks, line breaks, comments, the marks
`= . , [ ] { }` and the four quotings of strings are tokens of their own; everything else up to
the next blank, line break, comment or mark is one bare token, quotes included. A string runs to
its closing quote, or else stops before the end of its line (a multi-line string: at the end of
the document). A multi-line string closes at the first run of three quotes or more, and up to
two quotes of a longer run still belong to it. A byte order mark that starts the document is
skipped.
-/

namespace SimRegress.Toml

/-- The kinds of token. -/
inductive TokenKind where
  /-- Spaces and tabs. -/
  | whitespace
  /-- A line feed, a carriage return before one, or a carriage return alone. -/
  | newline
  /-- A `#` and the rest of its line. -/
  | comment
  | equals
  | dot
  | comma
  | openBracket
  | closeBracket
  | openBrace
  | closeBrace
  | basicString
  | literalString
  | multiBasicString
  | multiLiteralString
  /-- Text that is none of the above: a bare key or part of a bare value. -/
  | atom
  /-- The end of the document. -/
  | eof
  deriving DecidableEq, Repr

/-- A token: its kind, its text, and the byte offset where it starts. -/
structure Token where
  kind : TokenKind
  text : List Char
  start : Nat
  deriving Repr

def byteLength (cs : List Char) : Nat := cs.foldl (fun n c => n + c.utf8Size) 0

def Token.stop (t : Token) : Nat := t.start + byteLength t.text

/-- Whether a token can be a key or part of a dotted key. -/
def Token.isKeyLike (t : Token) : Bool :=
  t.kind == .atom || t.kind == .basicString || t.kind == .literalString ||
    t.kind == .multiBasicString || t.kind == .multiLiteralString

def apostrophe : Char := Char.ofNat 39

def endsAtom (c : Char) : Bool :=
  c == ' ' || c == '\t' || c == '\n' || c == '\r' || c == '#' || c == '=' || c == '.' ||
    c == ',' || c == '[' || c == ']' || c == '{' || c == '}'

/-- The rest of a basic string after its opening quote, split into the part that belongs to
the token and the text after it: up to the closing quote, or before a line feed. A backslash
keeps a following backslash or quote with it. -/
def basicRest : List Char → List Char × List Char
  | [] => ([], [])
  | '"' :: r => (['"'], r)
  | '\n' :: r => ([], '\n' :: r)
  | '\\' :: '\\' :: r => let (a, b) := basicRest r; ('\\' :: '\\' :: a, b)
  | '\\' :: '"' :: r => let (a, b) := basicRest r; ('\\' :: '"' :: a, b)
  | c :: r => let (a, b) := basicRest r; (c :: a, b)

/-- The rest of a literal string after its opening quote: up to the closing quote, or before a
line feed. -/
def literalRest : List Char → List Char × List Char
  | [] => ([], [])
  | c :: r =>
    if c == apostrophe then ([c], r)
    else if c == '\n' then ([], c :: r)
    else let (a, b) := literalRest r; (c :: a, b)

/-- The number of `q` at the front of some text. -/
def quoteRun (q : Char) : List Char → Nat
  | c :: r => if c == q then quoteRun q r + 1 else 0
  | [] => 0

/-- The rest of a multi-line string after its opening quotes: up to and including the first
run of three quotes `q` or more, at most five of them; `escapes` keeps the character after a
backslash with it. Without a closing run it is the whole rest. -/
def multiRest (q : Char) (escapes : Bool) : List Char → List Char × List Char
  | [] => ([], [])
  | c :: r =>
    if escapes && c == '\\' then
      match r with
      | d :: r' => let (a, b) := multiRest q escapes r'; (c :: d :: a, b)
      | [] => ([c], [])
    else if c == q && quoteRun q (c :: r) ≥ 3 then
      let k := min (quoteRun q (c :: r)) 5
      ((c :: r).take k, (c :: r).drop k)
    else let (a, b) := multiRest q escapes r; (c :: a, b)

/-- The kind and text of the token that starts with `c`, and the text after it. -/
def lexOne (c : Char) (r : List Char) : TokenKind × List Char × List Char :=
  if c == ' ' || c == '\t' then
    let run := r.takeWhile fun x => x == ' ' || x == '\t'
    (.whitespace, c :: run, r.drop run.length)
  else if c == '\n' then (.newline, [c], r)
  else if c == '\r' then
    match r with
    | '\n' :: r' => (.newline, ['\r', '\n'], r')
    | _ => (.newline, [c], r)
  else if c == '#' then
    let body := r.takeWhile fun x => x != '\r' && x != '\n'
    (.comment, c :: body, r.drop body.length)
  else if c == '=' then (.equals, [c], r)
  else if c == '.' then (.dot, [c], r)
  else if c == ',' then (.comma, [c], r)
  else if c == '[' then (.openBracket, [c], r)
  else if c == ']' then (.closeBracket, [c], r)
  else if c == '{' then (.openBrace, [c], r)
  else if c == '}' then (.closeBrace, [c], r)
  else if c == '"' then
    match r with
    | '"' :: '"' :: r' =>
      let (a, b) := multiRest '"' true r'
      (.multiBasicString, c :: '"' :: '"' :: a, b)
    | _ => let (a, b) := basicRest r; (.basicString, c :: a, b)
  else if c == apostrophe then
    if r.take 2 == [apostrophe, apostrophe] then
      let (a, b) := multiRest apostrophe false (r.drop 2)
      (.multiLiteralString, c :: apostrophe :: apostrophe :: a, b)
    else let (a, b) := literalRest r; (.literalString, c :: a, b)
  else
    let run := r.takeWhile fun x => !endsAtom x
    (.atom, c :: run, r.drop run.length)

/-- Cuts text into tokens from byte offset `pos`, ending with the end token; `fuel` bounds the
number of tokens. -/
def lexLoop : Nat → List Char → Nat → List Token → List Token
  | 0, _, pos, acc => (⟨.eof, [], pos⟩ :: acc).reverse
  | _, [], pos, acc => (⟨.eof, [], pos⟩ :: acc).reverse
  | fuel + 1, c :: r, pos, acc =>
    let (kind, text, rest) := lexOne c r
    lexLoop fuel rest (pos + byteLength text) (⟨kind, text, pos⟩ :: acc)

/-- Whether a comment or a string may not hold a character: the controls other than tab, and
DEL. -/
def isControlFault (c : Char) : Bool := (c.toNat < 0x20 && c != '\t') || c.toNat == 0x7F

def loneCarriageReturn : String := "carriage return must be followed by newline, expected newline"

def byteOrderMark : Char := Char.ofNat 0xFEFF

/-- The tokens of a document. Every token holds at least one character, so the fuel of one
token a character never runs out. -/
def lex (text : String) : List Token :=
  match text.toList with
  | c :: r => if c == byteOrderMark then lexLoop (r.length + 1) r 3 []
    else lexLoop (r.length + 2) (c :: r) 0 []
  | [] => lexLoop 1 [] 0 []

end SimRegress.Toml
