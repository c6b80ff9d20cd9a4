import SimRegress.Toml.Syntax
import SimRegress.Toml.Strings
import SimRegress.Toml.Scalar

/-!
Building the tables of a TOML document from its statements.

Key-value statements fill the current table; a header closes it and opens the next. A table
opened by `[key]` is put into its place when the next header comes or the document ends, and one
opened by `[[key]]` is then added to the array of tables there. The tables named on the way to a
header's key are made when missing, and a dotted key makes the tables it names likewise.

A key is defined once. A header may take over a table that was only named on the way to an
earlier header, but no other; a dotted key may extend tables made by dotted keys or named on the
way to a header, but not a table opened by a header; and nothing extends an inline table, or a
value that is no table. In an array of tables, the last table is the one extended. The first
fault in the order of the statements is the fault of the document.
-/

namespace SimRegress.Toml

/-- A part of a key as read: its text and its span. -/
abbrev Key := String × Span

/-- How many parts a dotted key may have: its tables nest at most this deep below the table it
is read in. -/
def maxKeyParts : Nat := 80

/-- The parts of a dotted key as read; a key of too many parts is a fault of the document as a
whole. -/
def readKeyPath (k : KeyPath) : Except Error (List Key) := do
  let keys ← k.mapM fun t => do pure (← t.readKey, (⟨t.start, t.stop⟩ : Span))
  if keys.length > maxKeyParts then throw ⟨"recursion limit", none⟩
  pure keys

/-- The fault of a key that names a value which is no table, as if it were one. -/
def cannotExtend (typeName : String) (span : Span) : Error :=
  ⟨"cannot extend value of type " ++ typeName ++ " with a dotted key", some span⟩

/-- Applies `f` to the table that `path` names below a table with entries `es`, whose origin is
dotted when `here` is, and puts the result back. Missing tables on the way are made, of origin
dotted when `dotted` (the path is that of a dotted key) and implicit otherwise. `f` learns
whether the table it gets was made by a dotted key. -/
def descend (dotted : Bool) (f : Bool → List Entry → Except Error (List Entry × α)) :
    List Key → Bool → List Entry → Except Error (List Entry × α)
  | [], here, es => f here es
  | (k, ks) :: rest, _, es =>
    match findEntry es k with
    | none => do
      let (inner, a) ← descend dotted f rest dotted []
      let origin : Origin := if dotted then .dotted else .implicit
      pure (es ++ [(k, ks, .table origin inner, ks)], a)
    | some (_, oks, v, vs) =>
      match v with
      | .tables items =>
        match items.reverse with
        | (.table o inner, s) :: earlier => do
          let (inner, a) ← descend dotted f rest (o == .dotted) inner
          pure (replaceEntry es (k, oks, .tables ((.table o inner, s) :: earlier).reverse, vs), a)
        | _ => .error (cannotExtend v.typeName ks)
      | .table .inline _ => .error (cannotExtend "inline table" ks)
      | .table o inner =>
        if dotted && o == .explicit then .error (duplicateKey ks)
        else do
          let (inner, a) ← descend dotted f rest (o == .dotted) inner
          pure (replaceEntry es (k, oks, .table o inner, vs), a)
      | _ => .error (cannotExtend v.typeName ks)

/-- Puts a value at a dotted key into a table that no dotted key made. The key must be new, and
a dotted key must end in a table made by dotted keys. -/
def putValue (keys : List Key) (v : Value) (vs : Span) (es : List Entry) :
    Except Error (List Entry) :=
  match keys.reverse with
  | [] => .ok es
  | (k, ks) :: revPath =>
    let path := revPath.reverse
    let put (here : Bool) (es : List Entry) : Except Error (List Entry × Unit) :=
      if here == path.isEmpty then .error (duplicateKey ks)
      else match findEntry es k with
        | some _ => .error (duplicateKey ks)
        | none => .ok (es ++ [(k, ks, v, vs)], ())
    do pure (← descend (!path.isEmpty) put path false es).1

mutual

/-- The value of a value as written, with its span. An inline table is read as an explicit table,
so that inside the inline table that holds it a dotted key may not extend it; it is closed to
all keys once it is the value of a statement. -/
def decodeNode : Node → Except Error (Value × Span)
  | .quoted t => do pure (.string (← t.readString), ⟨t.start, t.stop⟩)
  | .bare text start stop => do pure (← decodeBare text start, ⟨start, stop⟩)
  | .array items start stop => do pure (.array (← decodeItems items), ⟨start, stop⟩)
  | .inlineTable entries start stop => do
    pure (.table .explicit (← decodeEntries entries []), ⟨start, stop⟩)

/-- The values of the items of an array. -/
def decodeItems : List Node → Except Error (List (Value × Span))
  | [] => pure []
  | n :: ns => do
    let v ← decodeNode n
    pure (v :: (← decodeItems ns))

/-- The entries of an inline table, put after the entries `es` read so far. -/
def decodeEntries : List (KeyPath × Node) → List Entry → Except Error (List Entry)
  | [], es => pure es
  | (k, n) :: rest, es => do
    let keys ← readKeyPath k
    let (v, vs) ← decodeNode n
    decodeEntries rest (← putValue keys v vs es)

end

/-- The state of building a document: the tables put in place so far, the entries of the table
being filled, and the header that opened it, if any (its key, whether it is `[[key]]`, and its
span). -/
structure Builder where
  root : List Entry
  current : List Entry
  header : Option (List Key × Bool × Span)

/-- Puts the table being filled into its place, giving the tables put in place. -/
def Builder.finish (b : Builder) : Except Error (List Entry) :=
  match b.header with
  | none => .ok b.current
  | some (keys, isArray, span) =>
    match keys.reverse with
    | [] => .ok b.root
    | (k, ks) :: revParent =>
      let table := Value.table .explicit b.current
      let put (_ : Bool) (es : List Entry) : Except Error (List Entry × Unit) :=
        match findEntry es k, isArray with
        | none, true => .ok (es ++ [(k, ks, .tables [(table, span)], span)], ())
        | some (_, oks, .tables items, vs), true =>
          .ok (replaceEntry es (k, oks, .tables (items ++ [(table, span)]), vs), ())
        | some _, true => .error (duplicateKey ks)
        | none, false => .ok (es ++ [(k, ks, table, span)], ())
        | some (_, oks, _, _), false => .ok (replaceEntry es (k, oks, table, span), ())
      do pure (← descend false put revParent.reverse false b.root).1

/-- Opens the table of a header. The tables on the way to a `[key]` are made at once, and a
table of that key that was only named on the way to an earlier header is taken over. -/
def Builder.start (root : List Entry) (keys : List Key) (isArray : Bool) (span : Span) :
    Except Error Builder :=
  match keys.reverse, isArray with
  | (k, ks) :: revParent, false => do
    let take (_ : Bool) (es : List Entry) : Except Error (List Entry × List Entry) :=
      match findEntry es k with
      | none => .ok (es, [])
      | some (_, _, .table .implicit inner, _) => .ok (es.filter (·.1 != k), inner)
      | some _ => .error (duplicateKey ks)
    let (root, current) ← descend false take revParent.reverse false root
    pure ⟨root, current, some (keys, isArray, span)⟩
  | _, _ => .ok ⟨root, [], some (keys, isArray, span)⟩

/-- Builds the tables of the statements from here on. -/
def Builder.run : List Statement → Builder → Except Error Builder
  | [], b => .ok b
  | .keyValue k n :: rest, b => do
    let keys ← readKeyPath k
    let (v, vs) ← decodeNode n
    let current ← putValue keys v.closeInline vs b.current
    Builder.run rest { b with current }
  | .header k isArray start stop :: rest, b => do
    let root ← b.finish
    let keys ← readKeyPath k
    Builder.run rest (← Builder.start root keys isArray ⟨start, stop⟩)

/-- The root table of a document, or its first fault. -/
def parse (text : String) : Except Error Value := do
  let b ← Builder.run (← statements (lex text)) ⟨[], [], none⟩
  pure (.table .explicit (← b.finish))

end SimRegress.Toml
