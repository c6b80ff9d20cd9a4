import SimRegress.Toml.Token
import SimRegress.Toml.Value

/-!
The shape of a TOML document: its statements, read from its tokens.

A document is a sequence of statements, each on a line of its own: a key with a value, or a
table header `[key]` or `[[key]]`. A key is dotted, its parts bare or quoted; a part that is
missing is read as an empty bare key, which is refused when keys are read. A value is a quoted
string, an array, an inline table, or a bare value, which takes the bare tokens and dots from
here, and a blank only when a bare token follows it (so `1979-05-27 07:32` and `1 2` are each one
bare value, but `1 .5` is not); it is empty when nothing is written.

Arrays and inline tables may spread over lines and hold comments. An array holds values
separated by commas, and may end with one. An inline table reads as a machine in four states:
it waits for a key, for the `=` after it, for the value, and for the comma after that; every
other token in each state has its own fault, and a table closed while waiting for the `=` or the
value gives the last key an empty literal string, which is refused when it is read. Arrays and
inline tables nest at most eighty deep.

Only the shape is checked here, together with line breaks and comments; the first fault in the
order of the text is the fault of the document. What strings, bare values and keys say is read
afterwards.
-/

namespace SimRegress.Toml

/-- A key as written: the tokens of its parts. -/
abbrev KeyPath := List Token

/-- A value as written. -/
inductive Node where
  /-- A string in one of the four quotings. -/
  | quoted (token : Token)
  /-- A bare value: its text and its span, empty when nothing was written. -/
  | bare (text : List Char) (start stop : Nat)
  | array (items : List Node) (start stop : Nat)
  | inlineTable (entries : List (KeyPath × Node)) (start stop : Nat)

/-- A statement of a document. -/
inductive Statement where
  | keyValue (key : KeyPath) (value : Node)
  /-- A table header; `isArray` for `[[key]]`. -/
  | header (key : KeyPath) (isArray : Bool) (start stop : Nat)

/-- The tokens still to read, and the end of the last token read that is no blank, comment, line
break or end. -/
structure Reader where
  rest : List Token
  lastStop : Nat

/-- A reader of the tokens of a document. -/
abbrev Syntax := StateT Reader (Except Error)

/-- Whether a token only separates others: blanks, a comment, a line break, the end. -/
def Token.isTrivia (t : Token) : Bool :=
  t.kind == .whitespace || t.kind == .comment || t.kind == .newline || t.kind == .eof

/-- The next token; the end token stays in place. -/
def peekToken : Syntax Token := do
  let r ← get
  match r.rest with
  | t :: _ => pure t
  | [] => pure ⟨.eof, [], r.lastStop⟩

/-- Moves past the next token, unless it is the end. -/
def advanceToken : Syntax Unit :=
  modify fun r => match r.rest with
    | t :: rest =>
      if t.kind == .eof then r else ⟨rest, if t.isTrivia then r.lastStop else t.stop⟩
    | [] => r

def faultAt (message : String) (p : Nat) : Syntax α := throw ⟨message, some ⟨p, p⟩⟩

def liftCheck (x : Except Error Unit) : Syntax Unit :=
  match x with
  | .ok () => pure ()
  | .error e => throw e

/-- A line break must not be a carriage return alone. -/
def checkNewline (t : Token) : Except Error Unit :=
  if t.text == ['\r'] then .error ⟨loneCarriageReturn, some ⟨t.stop, t.stop⟩⟩ else .ok ()

/-- A comment holds no control character other than tab. -/
def checkComment (t : Token) : Except Error Unit :=
  let good := t.text.takeWhile fun c => !isControlFault c
  match t.text.drop good.length with
  | [] => .ok ()
  | c :: _ =>
    let p := t.start + byteLength good
    .error ⟨"invalid comment character, expected printable characters", some ⟨p, p + c.utf8Size⟩⟩

def checkTrivia (t : Token) : Except Error Unit :=
  if t.kind == .newline then checkNewline t
  else if t.kind == .comment then checkComment t
  else .ok ()

def skipWhitespace : Syntax Unit :=
  modify fun r => ⟨r.rest.dropWhile (·.kind == .whitespace), r.lastStop⟩

/-- The end of a statement: blanks, then a line break, a comment or the end of the document. -/
def endOfLine : Syntax Unit := do
  skipWhitespace
  let t ← peekToken
  match t.kind with
  | .newline | .comment => do liftCheck (checkTrivia t); advanceToken
  | .eof => pure ()
  | _ => faultAt "unexpected key or value, expected newline, `#`" t.start

/-- Skips the rest of a line that is not read, up to its line break or comment. -/
def skipLine : Nat → Syntax Unit
  | 0 => pure ()
  | fuel + 1 => do
    let t ← peekToken
    match t.kind with
    | .newline | .comment => do liftCheck (checkTrivia t); advanceToken
    | .eof => pure ()
    | _ => do advanceToken; skipLine fuel

/-- An empty bare key at an offset, standing for a part of a key that is missing. -/
def missingKey (p : Nat) : Token := ⟨.atom, [], p⟩

/-- The parts of a dotted key from here, with the parts so far last first. When `needPart`, a
part must come next (at the start of a header's key, and after each dot); a missing part is an
empty bare key at the next token, and then the key is incomplete (the flag given back is false).
Blanks may stand around the dots. -/
def keyParts : Nat → Bool → List Token → Syntax (List Token × Bool)
  | 0, _, acc => pure (acc.reverse, true)
  | fuel + 1, needPart, acc => do
    let t ← peekToken
    if needPart then
      if t.isKeyLike then do advanceToken; keyParts fuel false (t :: acc)
      else if t.kind == .whitespace then do advanceToken; keyParts fuel true acc
      else if t.kind == .dot then do advanceToken; keyParts fuel true (missingKey t.start :: acc)
      else pure ((missingKey t.start :: acc).reverse, false)
    else if t.kind == .whitespace then do advanceToken; keyParts fuel false acc
    else if t.kind == .dot then do advanceToken; keyParts fuel true acc
    else pure (acc.reverse, true)

/-- A bare value: the bare tokens and dots from here, and blanks each followed by a bare token,
after its first token `first`. -/
def bareLoop : Nat → List Token → Syntax (List Token)
  | 0, acc => pure acc.reverse
  | fuel + 1, acc => do
    match (← get).rest with
    | t :: u :: _ =>
      if t.kind == .atom || t.kind == .dot then do advanceToken; bareLoop fuel (t :: acc)
      else if t.kind == .whitespace && u.kind == .atom then do
        advanceToken
        advanceToken
        bareLoop fuel (u :: t :: acc)
      else pure acc.reverse
    | _ => pure acc.reverse

/-- A bare value that starts with the token `first`, already read. -/
def bare (first : Token) : Syntax Node := do
  let ts ← bareLoop (← get).rest.length [first]
  pure (.bare (ts.flatMap (·.text)) first.start ((ts.getLast?.getD first).stop))

/-- How deep arrays and inline tables may nest. -/
def maxDepth : Nat := 80

/-- Opening an array or inline table at depth `depth`, whose bracket is `t`. -/
def openNested (depth : Nat) (t : Token) : Syntax Unit :=
  if depth < maxDepth then advanceToken
  else throw ⟨"cannot recurse further; max recursion depth met", some ⟨t.start, t.stop⟩⟩

/-- What an inline table waits for. -/
inductive Awaiting where
  | key
  | equals
  | value
  | comma
  deriving DecidableEq, Repr

/-- What was expected, in a fault of an inline table. -/
def Awaiting.expected : Awaiting → String
  | .key => ", expected key"
  | .equals => ", expected `=`"
  | .value => ", expected value"
  | .comma => ", expected `,`"

/-- Whether a token is a string in one of the four quotings. -/
def Token.isString (t : Token) : Bool := t.isKeyLike && t.kind != .atom

/-- The value standing in for one that is missing before the end of an inline table. -/
def missingValue (p : Nat) : Node := .quoted ⟨.literalString, [], p⟩

mutual

/-- A value at nesting depth `depth`; `fuel` bounds the steps. A value that is not written is an
empty bare value at the next token. -/
def value : Nat → Nat → Syntax Node
  | 0, _ => do pure (.bare [] (← peekToken).start (← peekToken).start)
  | fuel + 1, depth => do
    let t ← peekToken
    match t.kind with
    | .comment | .comma | .newline | .eof | .whitespace => pure (.bare [] t.start t.start)
    | .equals => faultAt "extra `=`, expected nothing" t.start
    | .openBrace => do openNested depth t; tableEntries fuel (depth + 1) t .key [] []
    | .closeBrace => faultAt "missing inline table opening, expected `\x7b`" t.start
    | .openBracket => do openNested depth t; arrayItems fuel (depth + 1) t true []
    | .closeBracket => faultAt "missing array opening, expected `[`" t.start
    | .dot | .atom => do advanceToken; bare t
    | _ => do advanceToken; pure (.quoted t)

/-- The items of an array opened by `o`, the items so far last first; `needsValue` until an item
follows the bracket or the last comma. -/
def arrayItems : Nat → Nat → Token → Bool → List Node → Syntax Node
  | 0, _, _, _, _ => do faultAt "unclosed array, expected `]`" (← get).lastStop
  | fuel + 1, depth, o, needsValue, acc => do
    let t ← peekToken
    let missingComma : Syntax Unit :=
      if needsValue then pure ()
      else faultAt "missing comma between array elements, expected `,`" t.start
    match t.kind with
    | .whitespace | .newline | .comment => do
      liftCheck (checkTrivia t)
      advanceToken
      arrayItems fuel depth o needsValue acc
    | .eof => faultAt "unclosed array, expected `]`" (← get).lastStop
    | .comma =>
      if needsValue then faultAt "extra comma in array, expected value" t.start
      else do advanceToken; arrayItems fuel depth o true acc
    | .equals => faultAt "unexpected `=` in array, expected value, `]`" t.start
    | .closeBracket => do advanceToken; pure (.array acc.reverse o.start t.stop)
    | .closeBrace => do
      missingComma
      faultAt "missing inline table opening, expected `\x7b`" t.start
    | .openBrace => do
      missingComma
      openNested depth t
      let v ← tableEntries fuel (depth + 1) t .key [] []
      arrayItems fuel depth o false (v :: acc)
    | .openBracket => do
      missingComma
      openNested depth t
      let v ← arrayItems fuel (depth + 1) t true []
      arrayItems fuel depth o false (v :: acc)
    | .dot | .atom => do
      missingComma
      advanceToken
      let v ← bare t
      arrayItems fuel depth o false (v :: acc)
    | _ => do
      missingComma
      advanceToken
      arrayItems fuel depth o false (.quoted t :: acc)

/-- The entries of an inline table opened by `o`, the entries so far last first, in state
`state`, with the key read last. -/
def tableEntries : Nat → Nat → Token → Awaiting → KeyPath → List (KeyPath × Node) → Syntax Node
  | 0, _, _, _, _, _ => do faultAt "unclosed inline table, expected `\x7d`" (← get).lastStop
  | fuel + 1, depth, o, state, key, acc => do
    let t ← peekToken
    match t.kind with
    | .whitespace | .newline | .comment => do
      liftCheck (checkTrivia t)
      advanceToken
      tableEntries fuel depth o state key acc
    | .eof => faultAt "unclosed inline table, expected `\x7d`" (← get).lastStop
    | .comma =>
      if state == .comma then do advanceToken; tableEntries fuel depth o .key [] acc
      else faultAt ("extra comma in inline table" ++ state.expected) t.start
    | .equals =>
      match state with
      | .key => do advanceToken; tableEntries fuel depth o .value [missingKey t.start] acc
      | .equals => do advanceToken; tableEntries fuel depth o .value key acc
      | _ => faultAt ("extra assignment between key-value pairs" ++ state.expected) t.start
    | .closeBrace => do
      advanceToken
      let acc := if state == .equals || state == .value then (key, missingValue t.start) :: acc
        else acc
      pure (.inlineTable acc.reverse o.start t.stop)
    | .closeBracket =>
      if state == .value then faultAt "missing array opening, expected `[`" t.start
      else faultAt ("invalid inline table element" ++ state.expected) t.start
    | .openBrace | .openBracket =>
      match state with
      | .value => do
        openNested depth t
        let v ← if t.kind == .openBrace then tableEntries fuel (depth + 1) t .key [] []
          else arrayItems fuel (depth + 1) t true []
        tableEntries fuel depth o .comma [] ((key, v) :: acc)
      | .equals => faultAt "missing assignment between key-value pairs, expected `=`" t.start
      | _ => faultAt ("missing key for inline table element" ++ state.expected) t.start
    | _ =>
      match state with
      | .key => do
        let first ← if t.kind == .dot then pure (missingKey t.start)
          else do advanceToken; pure t
        let (parts, _) ← keyParts fuel false [first]
        tableEntries fuel depth o .equals parts acc
      | .value => do
        advanceToken
        let v ← if t.isString then pure (.quoted t) else bare t
        tableEntries fuel depth o .comma [] ((key, v) :: acc)
      | .equals => faultAt "missing assignment between key-value pairs, expected `=`" t.start
      | .comma => faultAt "missing comma between key-value pairs, expected `,`" t.start

end

/-- The `=` after a key, and the value and end of line after it; `missing` is the fault of a key
with no `=`. -/
def keyValueRest (key : KeyPath) (missing : String) : Syntax Statement := do
  skipWhitespace
  let t ← peekToken
  if t.kind != .equals then faultAt (missing ++ ", expected `=`") t.start
  advanceToken
  skipWhitespace
  let v ← value ((← get).rest.length + 1) 0
  endOfLine
  pure (.keyValue key v)

/-- A table header after its first bracket `o`. A key with a missing part is not checked for its
closing bracket, since its reading fails. -/
def header (o : Token) : Syntax Statement := do
  let isArray := (← peekToken).kind == .openBracket
  if isArray then advanceToken
  let fuel := (← get).rest.length + 1
  let (key, complete) ← keyParts fuel true []
  skipWhitespace
  let c ← peekToken
  if c.kind == .closeBracket then do
    advanceToken
    if isArray then do
      let c2 ← peekToken
      if c2.kind != .closeBracket then faultAt "unclosed array table, expected `]`" c.stop
      advanceToken
      endOfLine
      pure (.header key true o.start c2.stop)
    else do
      endOfLine
      pure (.header key false o.start c.stop)
  else if complete then
    faultAt (if isArray then "unclosed array table, expected `]]`"
      else "unclosed table, expected `]`") (← get).lastStop
  else do
    skipLine fuel
    pure (.header key isArray o.start c.start)

/-- The statements of a document from here, the statements so far last first. -/
def documentLoop : Nat → List Statement → Syntax (List Statement)
  | 0, acc => pure acc.reverse
  | fuel + 1, acc => do
    let t ← peekToken
    match t.kind with
    | .eof => pure acc.reverse
    | .whitespace | .newline | .comment => do
      liftCheck (checkTrivia t)
      advanceToken
      documentLoop fuel acc
    | .openBracket => do
      advanceToken
      let h ← header t
      documentLoop fuel (h :: acc)
    | .closeBracket => faultAt "missing table open, expected `[`" t.start
    | .comma | .openBrace | .closeBrace => faultAt "invalid key-value pair, expected key" t.start
    | .equals => do
      let s ← keyValueRest [missingKey t.start] "key with no value"
      documentLoop fuel (s :: acc)
    | .dot => do
      let (key, _) ← keyParts fuel false [missingKey t.start]
      let s ← keyValueRest key "missing value for key"
      documentLoop fuel (s :: acc)
    | _ => do
      advanceToken
      let (key, _) ← keyParts fuel false [t]
      let s ← keyValueRest key "key with no value"
      documentLoop fuel (s :: acc)

/-- The statements of a document, or the first fault of its shape. -/
def statements (tokens : List Token) : Except Error (List Statement) :=
  (documentLoop (tokens.length + 1) []).run' ⟨tokens, 0⟩

end SimRegress.Toml
