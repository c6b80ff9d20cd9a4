/-!
UTF-8 decoding that never fails, and a decoder for a byte stream that arrives in chunks.

A well-formed sequence gives its character. Each maximal ill-formed part, that is a byte that
cannot start a character or a start that a wrong byte cuts short, gives one replacement
character `U+FFFD`. A start of a character that the bytes end in the middle of is held back by
the stream decoder, since the next chunk may complete it; at the end of the stream it too
becomes one replacement character.
-/

namespace SimRegress.Text

def replacement : Char := '�'

/-- What the front of a byte sequence holds. -/
inductive Front where
  /-- A character, and the bytes after it. -/
  | char (c : Char) (rest : List UInt8)
  /-- An ill-formed part, and the bytes after it. -/
  | invalid (rest : List UInt8)
  /-- The start of a character, cut short by the end of the bytes. -/
  | truncated
  deriving DecidableEq, Repr

/-- For a byte that starts a character of two bytes or more: its width, the bits it
contributes, and the range of the byte after it. -/
def leadShape (b : UInt8) : Option (Nat × Nat × UInt8 × UInt8) :=
  let v := b.toNat
  if 0xC2 ≤ v ∧ v ≤ 0xDF then some (1, v % 32, 0x80, 0xBF)
  else if v = 0xE0 then some (2, v % 16, 0xA0, 0xBF)
  else if 0xE1 ≤ v ∧ v ≤ 0xEC then some (2, v % 16, 0x80, 0xBF)
  else if v = 0xED then some (2, v % 16, 0x80, 0x9F)
  else if 0xEE ≤ v ∧ v ≤ 0xEF then some (2, v % 16, 0x80, 0xBF)
  else if v = 0xF0 then some (3, v % 8, 0x90, 0xBF)
  else if 0xF1 ≤ v ∧ v ≤ 0xF3 then some (3, v % 8, 0x80, 0xBF)
  else if v = 0xF4 then some (3, v % 8, 0x80, 0x8F)
  else none

/-- Reads `k` more continuation bytes into the code point `acc`. -/
def continuation : Nat → Nat → List UInt8 → Front
  | 0, acc, rest => .char (Char.ofNat acc) rest
  | _ + 1, _, [] => .truncated
  | k + 1, acc, c :: rest =>
    if 0x80 ≤ c.toNat ∧ c.toNat ≤ 0xBF then continuation k (acc * 64 + c.toNat % 64) rest
    else .invalid (c :: rest)

/-- The front of a byte sequence that is not empty. -/
def Front.of : List UInt8 → Front
  | [] => .truncated
  | b :: rest =>
    if b.toNat < 0x80 then .char (Char.ofNat b.toNat) rest
    else match leadShape b with
      | none => .invalid rest
      | some (k, lead, lo, hi) =>
        match rest with
        | [] => .truncated
        | c :: rest' =>
          if lo ≤ c ∧ c ≤ hi then continuation (k - 1) (lead * 64 + c.toNat % 64) rest'
          else .invalid rest

/-- Decodes bytes: the characters, and the cut-short start of a character at the end. -/
def decodeLoop : Nat → List UInt8 → List Char → List Char × List UInt8
  | 0, bytes, acc => (acc.reverse, bytes)
  | _, [], acc => (acc.reverse, [])
  | fuel + 1, bytes, acc =>
    match Front.of bytes with
    | .char c rest => decodeLoop fuel rest (c :: acc)
    | .invalid rest => decodeLoop fuel rest (replacement :: acc)
    | .truncated => (acc.reverse, bytes)

/-- Decodes bytes, holding back a character cut short at the end. -/
def decodeHolding (bytes : List UInt8) : String × List UInt8 :=
  let (cs, held) := decodeLoop (bytes.length + 1) bytes []
  (String.ofList cs, held)

/-- Decodes bytes; each ill-formed part, a cut-short one at the end too, is a replacement
character. -/
def decodeLossy (bytes : List UInt8) : String :=
  let (text, held) := decodeHolding bytes
  if held.isEmpty then text else text.push replacement

/-- Decodes well-formed UTF-8 strictly: the characters, or nothing at the first fault. -/
def decodeStrictLoop : Nat → List UInt8 → List Char → Option (List Char)
  | 0, _, _ => none
  | _, [], acc => some acc.reverse
  | fuel + 1, bytes, acc =>
    match Front.of bytes with
    | .char c rest => decodeStrictLoop fuel rest (c :: acc)
    | _ => none

/-- The text of well-formed UTF-8, or nothing. -/
def decodeStrict? (bytes : List UInt8) : Option String :=
  String.ofList <$> decodeStrictLoop (bytes.length + 1) bytes []

/-- A decoder of a byte stream: the bytes it holds back. -/
structure Utf8Decoder where
  pending : List UInt8 := []
  deriving DecidableEq, Repr

/-- Decodes the next chunk after what the decoder held back. -/
def Utf8Decoder.decode (d : Utf8Decoder) (chunk : List UInt8) : Utf8Decoder × String :=
  let (text, held) := decodeHolding (d.pending ++ chunk)
  (⟨held⟩, text)

/-- Ends the stream: what was held back, decoded. -/
def Utf8Decoder.finish (d : Utf8Decoder) : Utf8Decoder × String :=
  ({}, decodeLossy d.pending)

end SimRegress.Text
