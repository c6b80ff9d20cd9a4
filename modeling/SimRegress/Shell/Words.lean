/-!
Splitting a command line into words, as a POSIX shell does without expanding anything.

Words are separated by spaces, tabs and newlines. A `#` that starts a word starts a comment that
runs to the end of the line. Inside single quotes every character stands for itself; inside
double quotes a backslash escapes only `$`, a backquote, `"` and `\`, drops a newline, and is
kept before any other character; outside quotes a backslash escapes the next character and drops
a newline. A quote left open, or a backslash at the very end, makes the line unreadable.
-/

namespace SimRegress.Shell

/-- Where the splitter stands. -/
inductive Mode where
  /-- Between words. -/
  | between
  /-- In a comment. -/
  | comment
  /-- In a word, outside quotes. -/
  | word
  /-- After a backslash outside quotes. -/
  | escaped
  /-- Inside single quotes. -/
  | single
  /-- Inside double quotes. -/
  | double
  /-- After a backslash inside double quotes. -/
  | doubleEscaped
  deriving DecidableEq, Repr

def isSeparator (c : Char) : Bool := c == ' ' || c == '\t' || c == '\n'

def singleQuote : Char := Char.ofNat 39

/-- The characters a backslash escapes inside double quotes. -/
def isDoubleEscapable (c : Char) : Bool :=
  c == '$' || c == Char.ofNat 96 || c == '"' || c == '\\'

/-- The mode after a character that continues or starts a word outside quotes, with the
characters of the word so far, last first. -/
def wordStep (c : Char) (word : List Char) : Mode × List Char :=
  if c == '"' then (.double, word)
  else if c == singleQuote then (.single, word)
  else if c == '\\' then (.escaped, word)
  else (.word, c :: word)

/-- Splits the characters left in `mode`, with the current word last character first and the
finished words last first; `none` when a quote or an escape is left open. -/
def splitLoop : Mode → List Char → List Char → List String → Option (List String)
  | .between, [], _, words => some words.reverse
  | .comment, [], _, words => some words.reverse
  | .word, [], word, words => some (String.ofList word.reverse :: words).reverse
  | _, [], _, _ => none
  | .between, c :: rest, _, words =>
    if isSeparator c then splitLoop .between rest [] words
    else if c == '#' then splitLoop .comment rest [] words
    else
      let (mode, word) := wordStep c []
      splitLoop mode rest word words
  | .comment, c :: rest, _, words =>
    splitLoop (if c == '\n' then .between else .comment) rest [] words
  | .word, c :: rest, word, words =>
    if isSeparator c then splitLoop .between rest [] (String.ofList word.reverse :: words)
    else
      let (mode, word) := wordStep c word
      splitLoop mode rest word words
  | .escaped, c :: rest, word, words =>
    splitLoop .word rest (if c == '\n' then word else c :: word) words
  | .single, c :: rest, word, words =>
    if c == singleQuote then splitLoop .word rest word words
    else splitLoop .single rest (c :: word) words
  | .double, c :: rest, word, words =>
    if c == '\\' then splitLoop .doubleEscaped rest word words
    else if c == '"' then splitLoop .word rest word words
    else splitLoop .double rest (c :: word) words
  | .doubleEscaped, c :: rest, word, words =>
    if isDoubleEscapable c then splitLoop .double rest (c :: word) words
    else if c == '\n' then splitLoop .double rest word words
    else splitLoop .double rest (c :: '\\' :: word) words

/-- The words of a command line, or `none` when a quote or an escape is left open. -/
def words (line : String) : Option (List String) := splitLoop .between line.toList [] []

end SimRegress.Shell
