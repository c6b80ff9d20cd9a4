import SimRegress.Dataset.Basic
import SimRegress.Json.Reader
import SimRegress.Decimal.Reading
import SimRegress.Text.Blank

/-!
Dataset documents: the JSON files that hold the datasets of one simulation output.

A document is `{"datasets": {name: {"labels": [..], "columns": n, "rows": [[sample, ..], ..]}}}`.
Every field may be missing, unknown fields are skipped, and an object may also be given as an
array of its field values in this order. A sample is a number, or a string that, trimmed, reads
as one. Of two datasets of the same name the last one counts.

Reading goes in two passes: the whole text is read first, so that a fault in the JSON wins over
any fault in the tables; then the datasets are built in name order, and the first that fails
fails the document. `Collection.toJson` writes a document back, indented, with the non-finite
samples as the strings `NaN`, `inf` and `-inf`.
-/

namespace SimRegress

open Json

/-- A sample as a document holds it. -/
inductive Sample where
  | number (x : Float)
  | text (s : String)

/-- A dataset as a document holds it, before it is checked. -/
structure RawDataset where
  labels : List String := []
  columns : Option Nat := none
  rows : List (List Sample) := []

/-- The datasets of one document, in name order. -/
structure Collection where
  entries : List (String × Dataset) := []

/-- Inserts a dataset in name order, replacing one of the same name. -/
def insertByName (k : String) (v : α) : List (String × α) → List (String × α)
  | [] => [(k, v)]
  | (k', v') :: r =>
    if k < k' then (k, v) :: (k', v') :: r
    else if k == k' then (k, v) :: r
    else (k', v') :: insertByName k v r

/-- Inserts a dataset. -/
def Collection.insert (c : Collection) (name : String) (d : Dataset) : Collection :=
  ⟨insertByName name d c.entries⟩

/-- The dataset of a name. -/
def Collection.get? (c : Collection) (name : String) : Option Dataset := c.entries.lookup name

def Collection.names (c : Collection) : List String := c.entries.map (·.1)

/-! ### Reading the JSON -/

/-- Reads a sequence whose items `item` reads, given the nesting levels left inside it. -/
def readSeqOf (expecting : String) (remaining : Nat) (item : Nat → Reader α) : Reader (List α) :=
  fixPosition do
    match ← skipBlank with
    | none => failAhead .eofValue
    | some '[' => nested remaining (items (item (remaining - 1))) closeSeq
    | some _ => mismatch expecting

def readText : Reader String :=
  fixPosition do
    match ← skipBlank with
    | none => failAhead .eofValue
    | some '"' => do eat; readString
    | some _ => mismatch "a string"

/-- A number as a count: a negative integer is out of range, and a fraction has the wrong type. -/
def countOf : Number → Reader Nat
  | .nat n => pure n
  | .neg n => failLoose (invalidValue (.signed n) "usize")
  | .float x => failLoose (invalidType (.float x) "usize")

def readCount : Reader Nat :=
  fixPosition do
    match ← skipBlank with
    | none => failAhead .eofValue
    | some '-' => do eat; countOf (← readNumber false)
    | some c => if c.isDigit then do countOf (← readNumber true) else mismatch "usize"

def readOptionalCount : Reader (Option Nat) := do
  match ← skipBlank with
  | some 'n' => do eat; ident ['u', 'l', 'l']; pure none
  | _ => some <$> readCount

/-- Reads a sample: any value is read, and only a number or a string is kept. -/
def readSample (remaining : Nat) : Reader Sample := do
  match ← readAny remaining with
  | .num n => pure (.number n.toFloat)
  | .str s => pure (.text s)
  | _ => failLoose (.custom "data did not match any variant of untagged enum Sample")

def readRows (remaining : Nat) : Reader (List (List Sample)) :=
  readSeqOf "a sequence" remaining fun r => readSeqOf "a sequence" r readSample

/-- Reads the next field of an object given as an array: `none` once the array has ended. -/
def arrayField (first : Bool) (read : Reader α) : Reader (Option α × Bool) := do
  if ← nextItem first then do
    let x ← read
    pure (some x, false)
  else pure (none, first)

/-- Reads the fields of an object one key at a time with `step`, which reads the colon and the
value. -/
def fieldsLoop (step : σ → String → Reader σ) : Nat → Bool → σ → Reader σ
  | 0, _, s => pure s
  | fuel + 1, first, s => do
    if ← nextKey first then do
      let k ← readKey
      let s ← step s k
      fieldsLoop step fuel false s
    else pure s

def fields (step : σ → String → Reader σ) (init : σ) : Reader σ := do
  fieldsLoop step ((← get).bound + 1) true init

def duplicateField (name : String) : Fault := .custom ("duplicate field `" ++ name ++ "`")

/-- The fields of a dataset read so far. -/
structure DatasetFields where
  labels : Option (List String) := none
  columns : Option (Option Nat) := none
  rows : Option (List (List Sample)) := none

def datasetField (remaining : Nat) (s : DatasetFields) (key : String) : Reader DatasetFields :=
  match key with
  | "labels" =>
    if s.labels.isSome then failLoose (duplicateField "labels")
    else do colon; pure { s with labels := some (← readSeqOf "a sequence" remaining fun _ => readText) }
  | "columns" =>
    if s.columns.isSome then failLoose (duplicateField "columns")
    else do colon; pure { s with columns := some (← readOptionalCount) }
  | "rows" =>
    if s.rows.isSome then failLoose (duplicateField "rows")
    else do colon; pure { s with rows := some (← readRows remaining) }
  | _ => do colon; skipValue; pure s

/-- Reads the fields of a dataset given as an array, after its bracket. -/
def datasetFromArray (remaining : Nat) : Reader RawDataset := do
  let (labels, first) ← arrayField true (readSeqOf "a sequence" remaining fun _ => readText)
  let (columns, first) ← arrayField first readOptionalCount
  let (rows, _) ← arrayField first (readRows remaining)
  pure { labels := labels.getD [], columns := columns.getD none, rows := rows.getD [] }

/-- Reads the fields of a dataset given as an object, after its brace. -/
def datasetFromObject (remaining : Nat) : Reader RawDataset := do
  let s ← fields (datasetField remaining) {}
  pure { labels := s.labels.getD [], columns := s.columns.getD none, rows := s.rows.getD [] }

/-- Reads a dataset, as an object or as an array of its fields. -/
def readRawDataset (remaining : Nat) : Reader RawDataset :=
  fixPosition do
    match ← skipBlank with
    | none => failAhead .eofValue
    | some '[' => nested remaining (datasetFromArray (remaining - 1)) closeSeq
    | some '{' => nested remaining (datasetFromObject (remaining - 1)) closeMap
    | some _ => mismatch "struct RawDataset"

/-- The members of an object as a map: in name order, the last of equal names kept. -/
def membersByName (value : Reader α) : Reader (List (String × α)) := do
  let ms ← members value
  pure (ms.foldl (fun acc kv => insertByName kv.1 kv.2 acc) [])

def readDatasetMap (remaining : Nat) : Reader (List (String × RawDataset)) :=
  fixPosition do
    match ← skipBlank with
    | none => failAhead .eofValue
    | some '{' => nested remaining (membersByName (readRawDataset (remaining - 1))) closeMap
    | some _ => mismatch "a map"

def documentField (remaining : Nat) (s : Option (List (String × RawDataset))) (key : String) :
    Reader (Option (List (String × RawDataset))) :=
  if key == "datasets" then
    if s.isSome then failLoose (duplicateField "datasets")
    else do colon; pure (some (← readDatasetMap remaining))
  else do colon; skipValue; pure s

/-- Reads the fields of a document given as an array, after its bracket. -/
def documentFromArray (remaining : Nat) : Reader (List (String × RawDataset)) := do
  let (d, _) ← arrayField true (readDatasetMap remaining)
  pure (d.getD [])

/-- Reads the fields of a document given as an object, after its brace. -/
def documentFromObject (remaining : Nat) : Reader (List (String × RawDataset)) := do
  let d ← fields (documentField remaining) none
  pure (d.getD [])

def readDocumentValue : Reader (List (String × RawDataset)) :=
  fixPosition do
    match ← skipBlank with
    | none => failAhead .eofValue
    | some '[' => nested depthLimit (documentFromArray (depthLimit - 1)) closeSeq
    | some '{' => nested depthLimit (documentFromObject (depthLimit - 1)) closeMap
    | some _ => mismatch "struct RawFile"

/-- Reads a whole document: one value and nothing but blanks after it. -/
def readDocument : Reader (List (String × RawDataset)) := do
  let d ← readDocumentValue
  finish
  pure d

/-! ### Building the tables -/

/-- The value of a sample: a number, or a string that, trimmed, reads as one. -/
def Sample.value (name : String) : Sample → Except DatasetError Float
  | .number x => .ok x
  | .text s =>
    match Decimal.readFloat? (Text.trim s) with
    | some x => .ok x
    | none => .error (.invalidSample name s)

/-- Checks a dataset as read. -/
def RawDataset.build (name : String) (raw : RawDataset) : Except DatasetError Dataset := do
  let rows ← raw.rows.mapM fun row => row.mapM (Sample.value name)
  Dataset.ofRows name rows raw.columns raw.labels

/-- Reads a document; `origin` names it in the text of a failure. -/
def Collection.parse (text : String) (origin : String) : Except DatasetError Collection :=
  match (Reader.runOn readDocument text).1 with
  | .error e => .error (.json origin (e.render text))
  | .ok raws =>
    raws.foldlM (fun (c : Collection) (name, raw) => do
      let d ← raw.build name
      pure (c.insert name d)) {}

/-! ### Writing -/

/-- A sample as a document holds it: a finite value as a number, others by name. -/
def sampleJson (x : Float) : Value :=
  if x.isNaN then .str "NaN"
  else if x.isInf then .str (if x > 0 then "inf" else "-inf")
  else .num (.float x)

/-- A dataset as a document holds it: labels only if there are any, the width only if there are
no rows. -/
def Dataset.toJson (d : Dataset) : Value :=
  let labels : List (String × Value) :=
    if d.labels.isEmpty then [] else [("labels", .arr (d.labels.map .str))]
  let columns : List (String × Value) :=
    if d.rows == 0 then [("columns", .num (.nat d.columns))] else []
  .obj (labels ++ columns ++
    [("rows", .arr (d.rowList.map fun row => .arr (row.map sampleJson)))])

/-- The document of a collection, indented. -/
def Collection.toJson (c : Collection) : String :=
  (Value.obj [("datasets", .obj (c.entries.map fun (n, d) => (n, d.toJson)))]).pretty 0

/-- Two collections are equal: the same names, and equal tables under them. -/
def Collection.same (a b : Collection) : Bool :=
  a.entries.length == b.entries.length &&
    (a.entries.zip b.entries).all fun (x, y) => x.1 == y.1 && x.2.same y.2

end SimRegress
