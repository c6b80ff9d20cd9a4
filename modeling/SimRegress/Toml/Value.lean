/-!
TOML documents as values: tables of keys, each with the span of the text it came from.

A table remembers how it came to be: defined explicitly (by a header, or written inline inside
an inline table), named on the way to a deeper header, named by a dotted key, or written inline
as the value of a statement. The rules for extending a table depend on it. An
integer is kept whole, whatever its size, digits that spell no integer and a float too large for
any float are kept as such, since all of them are only refused when a setting reads them.
-/

namespace SimRegress.Toml

/-- A range of bytes of the document, its end excluded. -/
structure Span where
  start : Nat
  stop : Nat
  deriving DecidableEq, Repr

/-- A fault of a document: its text, and the span it points at, if it has a place. -/
structure Error where
  message : String
  span : Option Span
  deriving DecidableEq, Repr

/-- How a table came to be. -/
inductive Origin where
  /-- Opened by a header, or written inline inside an inline table: closed to dotted keys. -/
  | explicit
  /-- Named on the way to a deeper header. -/
  | implicit
  /-- Named on the way to a dotted key. -/
  | dotted
  /-- Written inline as the value of a statement: closed to every key. -/
  | inline
  deriving DecidableEq, Repr

/-- A TOML value. -/
inductive Value where
  | string (s : String)
  | integer (n : Int)
  /-- Digits that spell no integer, such as `0x` with none after it. -/
  | malformedInteger
  | float (x : Float)
  /-- A float written with more digits than any float holds, such as `1e400`. -/
  | hugeFloat
  | boolean (b : Bool)
  /-- A date, a time or both, as written. -/
  | datetime (text : String)
  | array (items : List (Value × Span))
  /-- An array of tables, grown by headers. -/
  | tables (items : List (Value × Span))
  /-- A table: each entry is a key, its span, a value and its span. -/
  | table (origin : Origin) (entries : List (String × Span × Value × Span))

/-- The name of the type of a value, in messages. -/
def Value.typeName : Value → String
  | .string _ => "string"
  | .integer _ | .malformedInteger => "integer"
  | .float _ | .hugeFloat => "float"
  | .boolean _ => "boolean"
  | .datetime _ => "datetime"
  | .array _ => "array"
  | .tables _ => "array of tables"
  | .table .inline _ => "inline table"
  | .table _ _ => "table"

/-- A table written inline, closed once it is the value of a statement. -/
def Value.closeInline : Value → Value
  | .table _ es => .table .inline es
  | v => v

/-- An entry of a table: a key, its span, a value and its span. -/
abbrev Entry := String × Span × Value × Span

def findEntry (es : List Entry) (k : String) : Option Entry := es.find? (·.1 == k)

def replaceEntry (es : List Entry) (e : Entry) : List Entry :=
  es.map fun x => if x.1 == e.1 then e else x

def duplicateKey (span : Span) : Error := ⟨"duplicate key", some span⟩

/-- The entries of a table in key order, as a map from keys holds them. -/
def sortedEntries (es : List Entry) : List Entry :=
  es.mergeSort fun a b => decide (a.1 ≤ b.1)

end SimRegress.Toml
