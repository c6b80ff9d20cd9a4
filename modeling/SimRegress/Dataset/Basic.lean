import SimRegress.Decimal.Layout

/-!
Datasets: named numeric tables.

Rows are samples and columns are channels; a list of labels names the leading columns and may
stop short of the last one. The samples are kept row by row in one array. `Dataset.ofRows` is the
only way to build a table, and it checks, in this order, that rows have values at all, that every
row is as wide as the table, and that there are no more labels than columns.

`Dataset.column k` walks the array from index `k` in steps of the width, so an index past the
last column continues into the following rows.
-/

namespace SimRegress

/-- What can go wrong when datasets are read or built. -/
inductive DatasetError where
  /-- A file could not be read. -/
  | io (path : String) (reason : String)
  /-- A document is not valid JSON of the dataset format; `reason` says where and why. -/
  | json (path : String) (reason : String)
  /-- Row `row` has `found` values where the table has `expected` columns. -/
  | raggedRow (name : String) (row found expected : Nat)
  /-- A sample text that is no number. -/
  | invalidSample (name : String) (value : String)
  /-- More labels than columns. -/
  | tooManyLabels (name : String) (labels columns : Nat)
  /-- Rows without any value. -/
  | emptyRows (name : String) (rows : Nat)
  /-- A CSV line that cannot be read. -/
  | csv (line : Nat) (message : String)
  deriving Repr, DecidableEq

def DatasetError.message : DatasetError → String
  | .io path reason => "failed to read " ++ path ++ ": " ++ reason
  | .json path reason => "failed to parse " ++ path ++ ": " ++ reason
  | .raggedRow name row found expected =>
    "dataset '" ++ name ++ "': row " ++ Decimal.digitsText row ++ " has " ++
      Decimal.digitsText found ++ " values, expected " ++ Decimal.digitsText expected
  | .invalidSample name value => "dataset '" ++ name ++ "': '" ++ value ++ "' is not a number"
  | .tooManyLabels name labels columns =>
    "dataset '" ++ name ++ "': " ++ Decimal.digitsText labels ++ " labels for " ++
      Decimal.digitsText columns ++ " columns"
  | .emptyRows name rows =>
    "dataset '" ++ name ++ "': " ++ Decimal.digitsText rows ++ " rows without values"
  | .csv line message => "CSV line " ++ Decimal.digitsText line ++ ": " ++ message

/-- The text of a dataset error followed by that of its cause, as an error chain prints it: the
reason of a file that could not be read or parsed is its cause. -/
def DatasetError.chain (e : DatasetError) : String :=
  match e with
  | .io _ reason | .json _ reason => e.message ++ ": " ++ reason
  | _ => e.message

/-- A numeric table with optional column labels. -/
structure Dataset where
  /-- The number of columns. -/
  columns : Nat
  /-- The samples, row after row. -/
  data : Array Float
  /-- Labels of the leading columns. -/
  labels : List String

/-- The width of a table built from rows: that of the first row, else the width given, else the
number of labels. -/
def tableWidth (rows : List (List Float)) (columns : Option Nat) (labels : List String) : Nat :=
  match rows with
  | r :: _ => r.length
  | [] => columns.getD labels.length

/-- The first row, by index, whose length differs from `width`, with that length. -/
def firstRagged (width : Nat) (rows : List (List Float)) : Option (Nat × Nat) :=
  ((List.range rows.length).zip rows).findSome? fun (i, r) =>
    if r.length == width then none else some (i, r.length)

/-- Builds a table from rows; `columns` matters only when there are no rows. -/
def Dataset.ofRows (name : String) (rows : List (List Float)) (columns : Option Nat)
    (labels : List String) : Except DatasetError Dataset :=
  let width := tableWidth rows columns labels
  if width == 0 && !rows.isEmpty then .error (.emptyRows name rows.length)
  else
    match firstRagged width rows with
    | some (i, found) => .error (.raggedRow name i found width)
    | none =>
      if labels.length > width then .error (.tooManyLabels name labels.length width)
      else .ok ⟨width, rows.flatten.toArray, labels⟩

/-- The number of rows. -/
def Dataset.rows (d : Dataset) : Nat := if d.columns == 0 then 0 else d.data.size / d.columns

/-- The label of a column, if the labels reach it. -/
def Dataset.label (d : Dataset) (i : Nat) : Option String := d.labels[i]?

/-- The sample in a row and a column. -/
def Dataset.value (d : Dataset) (row column : Nat) : Float :=
  d.data.getD (row * d.columns + column) 0.0

/-- The samples from index `k` on, in steps of the width (one for a table without columns). -/
def Dataset.column (d : Dataset) (k : Nat) : List Float :=
  let step := max d.columns 1
  (List.range ((d.data.size - k + step - 1) / step)).map fun i => d.data.getD (k + i * step) 0.0

/-- The rows, each a list of samples. -/
def Dataset.rowList (d : Dataset) : List (List Float) :=
  (List.range d.rows).map fun r => (List.range d.columns).map fun c => d.value r c

/-- Two floats are equal as numbers: a NaN equals nothing, and the two zeros are equal. -/
def sameNumber (a b : Float) : Bool := a == b

/-- Two tables are equal: the same width, labels and samples, samples compared as numbers. -/
def Dataset.same (a b : Dataset) : Bool :=
  a.columns == b.columns && a.labels == b.labels && a.data.size == b.data.size &&
    (a.data.toList.zip b.data.toList).all fun (x, y) => sameNumber x y

end SimRegress
