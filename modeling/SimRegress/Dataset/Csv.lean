import SimRegress.Dataset.Basic
import SimRegress.Decimal.Reading
import SimRegress.Text.Blank

/-!
Tables written as comma-separated text.

Lines are numbered from one, blank lines included, and lines of white space only are skipped.
The first other line is the header: its fields, trimmed and stripped of double quotes at either
end, are the labels. Every later line is a row of numbers; the first field that is no number
fails the line. The width of the table is that of the header.
-/

namespace SimRegress

/-- Strips a character from both ends of a text, as often as it stands there. -/
def stripChar (c : Char) (s : String) : String :=
  String.ofList ((s.toList.dropWhile (· == c)).reverse.dropWhile (· == c)).reverse

def csvLabel (field : String) : String := stripChar '"' (Text.trim field)

/-- The samples of a row line numbered `line`. -/
def csvRow (line : Nat) (text : String) : Except DatasetError (List Float) :=
  (text.splitOn ",").mapM fun cell =>
    let t := Text.trim cell
    match Decimal.readFloat? t with
    | some x => .ok x
    | none => .error (.csv line ("'" ++ t ++ "' is not a number"))

/-- Reads a table named `name` from comma-separated text. -/
def Dataset.ofCsv (name : String) (text : String) : Except DatasetError Dataset :=
  let numbered := ((List.range (Text.lines text).length).zip (Text.lines text)).filter
    fun (_, l) => !Text.isBlankText l
  match numbered with
  | [] => .error (.csv 1 "missing header")
  | (_, header) :: body =>
    let labels := (header.splitOn ",").map csvLabel
    match body.mapM (fun (i, l) => csvRow (i + 1) l) with
    | .error e => .error e
    | .ok rows => Dataset.ofRows name rows (some labels.length) labels

end SimRegress
