import SimRegress.Toml.Value
import SimRegress.Text.Utf8
import SimRegress.Decimal.Layout

/-!
A fault of a TOML document shown with the line it is on.

The text names the line and column of the fault, both counted from one, then shows the line
under a gutter with its number and marks the span with carets, at least one. The column counts
the characters before the fault on its line; where the fault starts on a character of several
bytes it counts the bytes instead. The marks stop at the end of the line. A fault of the document
as a whole is shown by its text alone.
-/

namespace SimRegress.Toml

/-- The line and column, from zero, of a byte offset of the document. -/
def position (bytes : List UInt8) (index : Nat) : Nat × Nat :=
  if bytes.isEmpty then (0, index)
  else
    let safe := min index (bytes.length - 1)
    let before := bytes.take safe
    let lineStart := match (before.reverse.findIdx? (· == 10)) with
      | some k => safe - k
      | none => 0
    let line := ((bytes.take lineStart).filter (· == 10)).length
    let slice := (bytes.drop lineStart).take (safe - lineStart + 1)
    let column := match Text.decodeStrict? slice with
      | some s => s.length - 1
      | none => safe - lineStart
    (line, column + (index - safe))

def blanks (n : Nat) : String := String.ofList (List.replicate n ' ')

/-- The text of a fault of a document; a fault without a place is its message alone. -/
def Error.render (e : Error) (source : String) : String :=
  match e.span with
  | none => e.message ++ "\n"
  | some span =>
    let (line, column) := position source.toUTF8.toList span.start
    let lineNum := Decimal.digitsText (line + 1)
    let gutter := lineNum.length
    let content := ((source.splitOn "\n").drop line).headD ""
    let width := min (span.stop - span.start) (content.utf8ByteSize - column)
    "TOML parse error at line " ++ lineNum ++ ", column " ++ Decimal.digitsText (column + 1) ++
      "\n" ++ blanks (gutter + 1) ++ "|\n" ++ lineNum ++ " | " ++ content ++ "\n" ++
      blanks (gutter + 1) ++ "|" ++ blanks (column + 1) ++ "^" ++
      String.ofList (List.replicate (width - 1) '^') ++ "\n" ++ e.message ++ "\n"

end SimRegress.Toml
