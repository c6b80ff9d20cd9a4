import Mathlib
import SimRegress.Json.Reader

/-!
Reading back what the writer prints.

`Reads F r p a` says that the reader `r`, started on the text `p` followed by any text that `F`
allows, returns `a` and stops right after `p`. Readers combine as their texts concatenate
(`Reads.bind`), so the text a value is printed as is read back piece by piece: blanks and
punctuation, strings with their escapes (`reads_readString`), and the items and members of
arrays and objects, one per line (`reads_items`, `reads_members`). The loops of the reader run on
fuel bounded by the length of the whole text, which exceeds the number of items they read.
-/

namespace SimRegress.Json

/-- A reader run from a cursor: its result, and the cursor it leaves. -/
def Reader.runAt (r : Reader α) (c : Cursor) : Except Failure α × Cursor := (ExceptT.run r).run c

section Running

variable (c : Cursor)

lemma runAt_bind (r : Reader α) (f : α → Reader β) :
    (r >>= f).runAt c = match r.runAt c with
      | (.ok a, c') => (f a).runAt c'
      | (.error e, c') => (.error e, c') := by
  simp only [Reader.runAt, ExceptT.run_bind, StateT.run_bind]
  rcases StateT.run (ExceptT.run r) c with ⟨_ | a, c'⟩ <;> rfl

lemma runAt_pure (a : α) : (pure a : Reader α).runAt c = (.ok a, c) := rfl

lemma runAt_map (f : α → β) (r : Reader α) :
    (f <$> r).runAt c = match r.runAt c with
      | (.ok a, c') => (.ok (f a), c')
      | (.error e, c') => (.error e, c') := by
  simp only [Reader.runAt, ExceptT.run_map, StateT.run_map]
  rcases StateT.run (ExceptT.run r) c with ⟨_ | a, c'⟩ <;> rfl

lemma runAt_tryCatch (x : Reader α) (h : Failure → Reader α) :
    (tryCatch x h).runAt c = match x.runAt c with
      | (.ok a, c') => (.ok a, c')
      | (.error e, c') => (h e).runAt c' := by
  simp only [Reader.runAt]
  show StateT.run (ExceptT.tryCatch x h) c = _
  simp only [ExceptT.tryCatch, ExceptT.mk, StateT.run_bind, ExceptT.run]
  rcases StateT.run x c with ⟨_ | a, c'⟩ <;> rfl

lemma runAt_skipBlank :
    skipBlank.runAt c = (.ok (c.rest.drop (c.rest.takeWhile isBlank).length).head?,
      { c with rest := c.rest.drop (c.rest.takeWhile isBlank).length,
               pos := c.pos + (c.rest.takeWhile isBlank).length }) := rfl

lemma runAt_get : (get : Reader Cursor).runAt c = (.ok c, c) := rfl

lemma runAt_set (c' : Cursor) : (set c' : Reader PUnit).runAt c = (.ok ⟨⟩, c') := rfl

lemma runAt_eat (x : Char) (r : List Char) (pos bound : Nat) :
    eat.runAt ⟨x :: r, pos, bound⟩ = (.ok (), ⟨r, pos + x.utf8Size, bound⟩) := rfl

end Running

/-! ### Reading a printed text -/

/-- Reading `p` gives `a`: from a cursor at `p` followed by text that `F` allows, within the
cursor's bound, the reader returns `a` and stops right after `p`. Offsets are not followed. -/
def Reads (F : List Char → Prop) (r : Reader α) (p : List Char) (a : α) : Prop :=
  ∀ rest pos bound, F rest → (p ++ rest).length ≤ bound →
    ∃ pos', r.runAt ⟨p ++ rest, pos, bound⟩ = (.ok a, ⟨rest, pos', bound⟩)

lemma reads_eat {F : List Char → Prop} (x : Char) : Reads F eat [x] () :=
  fun rest pos bound _ _ => ⟨_, runAt_eat x rest pos bound⟩

namespace Reads

variable {F G : List Char → Prop} {p q : List Char}

lemma pure' (a : α) : Reads F (pure a) [] a :=
  fun _ pos _ _ _ => ⟨pos, runAt_pure _ a⟩

lemma bind {r : Reader α} {f : α → Reader β} {a : α} {b : β} (h1 : Reads F r p a)
    (h2 : Reads G (f a) q b) (hF : ∀ rest, G rest → F (q ++ rest)) :
    Reads G (r >>= f) (p ++ q) b := by
  intro rest pos bound hG hlen
  obtain ⟨pos1, h1⟩ := h1 (q ++ rest) pos bound (hF rest hG) (by simpa using hlen)
  obtain ⟨pos2, h2⟩ := h2 rest pos1 bound hG (by simp at hlen ⊢; omega)
  refine ⟨pos2, ?_⟩
  rw [List.append_assoc, runAt_bind, h1]
  exact h2

lemma map {r : Reader α} {a : α} (h : Reads F r p a) (f : α → β) : Reads F (f <$> r) p (f a) := by
  intro rest pos bound hF hlen
  obtain ⟨pos', h⟩ := h rest pos bound hF hlen
  exact ⟨pos', by rw [runAt_map, h]⟩

lemma fixPosition {x : Reader α} {a : α} (h : Reads F x p a) : Reads F (Json.fixPosition x) p a := by
  intro rest pos bound hF hlen
  obtain ⟨pos', h⟩ := h rest pos bound hF hlen
  exact ⟨pos', by rw [Json.fixPosition, runAt_tryCatch, h]⟩

lemma attempt {x : Reader α} {a : α} (h : Reads F x p a) : Reads F (Json.attempt x) p (.ok a) := by
  intro rest pos bound hF hlen
  obtain ⟨pos', h⟩ := h rest pos bound hF hlen
  exact ⟨pos', by rw [Json.attempt, runAt_tryCatch, runAt_map, h]⟩

lemma thenClose {body : Reader α} {close : Reader Unit} {a : α} (h1 : Reads F body p a)
    (h2 : Reads G close q ()) (hF : ∀ rest, G rest → F (q ++ rest)) :
    Reads G (Json.thenClose body close) (p ++ q) a := by
  unfold Json.thenClose
  refine h1.attempt.bind ?_ hF
  rw [← List.append_nil q]
  exact h2.attempt.bind (pure' a) (fun rest h => h)

lemma nested {body : Reader α} {close : Reader Unit} {a : α} {remaining : Nat} (hr : 2 ≤ remaining)
    (x : Char) (h1 : Reads F body p a) (h2 : Reads G close q ())
    (hF : ∀ rest, G rest → F (q ++ rest)) :
    Reads G (Json.nested remaining body close) (x :: (p ++ q)) a := by
  rw [Json.nested, if_neg (by omega)]
  exact (reads_eat (F := fun _ => True) x).bind (h1.thenClose h2 hF) (fun _ _ => trivial)

end Reads

/-! ### Blanks and punctuation -/

/-- Text made of blanks only. -/
def Blanks (bl : List Char) : Prop := ∀ c ∈ bl, isBlank c = true

lemma takeWhile_blanks {bl : List Char} (hbl : Blanks bl) {rest : List Char}
    (hr : ∀ c ∈ rest.head?, isBlank c = false) : (bl ++ rest).takeWhile isBlank = bl := by
  induction bl with
  | nil =>
    cases rest with
    | nil => rfl
    | cons c r => exact List.takeWhile_cons_of_neg (by simpa using hr c rfl)
  | cons b bl ih =>
    rw [List.cons_append, List.takeWhile_cons_of_pos (hbl b (by simp)),
      ih (fun c hc => hbl c (by simp [hc]))]

lemma runAt_skipBlank_blanks {bl rest : List Char} (hbl : Blanks bl)
    (hr : ∀ c ∈ rest.head?, isBlank c = false) (pos bound : Nat) :
    skipBlank.runAt ⟨bl ++ rest, pos, bound⟩ =
      (.ok rest.head?, ⟨rest, pos + bl.length, bound⟩) := by
  rw [runAt_skipBlank]
  simp only [takeWhile_blanks hbl hr, List.drop_left]

lemma reads_skipBlank {bl : List Char} (hbl : Blanks bl) {c : Char} (hc : isBlank c = false) :
    Reads (·.head? = some c) Json.skipBlank bl (some c) := by
  intro rest pos bound hr _
  refine ⟨pos + bl.length, ?_⟩
  rw [runAt_skipBlank_blanks hbl (by simp [hr, hc]), hr]

lemma reads_colon {F : List Char → Prop} {bl : List Char} (hbl : Blanks bl) :
    Reads F Json.colon (bl ++ [':']) () :=
  (reads_skipBlank hbl (by decide)).bind (reads_eat ':') (fun _ _ => rfl)

lemma reads_closeSeq {F : List Char → Prop} {bl : List Char} (hbl : Blanks bl) :
    Reads F Json.closeSeq (bl ++ [']']) () :=
  (reads_skipBlank hbl (by decide)).bind (reads_eat ']') (fun _ _ => rfl)

lemma reads_closeMap {F : List Char → Prop} {bl : List Char} (hbl : Blanks bl) :
    Reads F Json.closeMap (bl ++ ['}']) () :=
  (reads_skipBlank hbl (by decide)).bind (reads_eat '}') (fun _ _ => rfl)

/-! ### Strings -/

/-- The characters of a string's body as `quote` escapes them. -/
def escaped (s : List Char) : List Char := s.flatMap fun c => (escapeChar c).toList

lemma toList_quote (s : String) : (quote s).toList = '"' :: escaped s.toList ++ ['"'] := by
  simp [quote, escaped, String.toList_append, String.toList_join, List.flatMap_map]

lemma hex4_control : ∀ n < 32, (hex4 n).toList.length = 4 ∧
    (hex4 n).toList.map hexDigit? = [some 0, some 0, some (n / 16), some (n % 16)] := by
  decide

lemma escapeChar_of_ne {c : Char} (h1 : c ≠ '"') (h2 : c ≠ '\\') (h3 : c ≠ '\n') (h4 : c ≠ '\r')
    (h5 : c ≠ '\t') (h6 : c ≠ '\x08') (h7 : c ≠ '\x0c') :
    escapeChar c = if c.toNat < 0x20 then "\\u" ++ hex4 c.toNat else String.singleton c := by
  unfold escapeChar
  split <;> simp_all

lemma hexQuad_digits {a b d e : Char} {w x y z : Nat} (ha : hexDigit? a = some w)
    (hb : hexDigit? b = some x) (hd : hexDigit? d = some y) (he : hexDigit? e = some z)
    (cs : List Char) (off : Nat) :
    hexQuad (a :: b :: d :: e :: cs) off = .ok (((w * 16 + x) * 16 + y) * 16 + z, cs) := by
  have hsize : ¬ byteSize ((a :: b :: d :: e :: cs).take 4) < 4 := by
    have := a.utf8Size_pos; have := b.utf8Size_pos; have := d.utf8Size_pos; have := e.utf8Size_pos
    simp only [List.take_succ_cons, List.take_zero, byteSize, List.foldl_cons, List.foldl_nil]
    omega
  rw [hexQuad, if_neg hsize]
  simp [ha, hb, hd, he]

lemma scanBody_plain {c : Char} (h1 : c ≠ '"') (h2 : c ≠ '\\') (h3 : ¬ c.toNat < 0x20)
    (fuel : Nat) (acc cs : List Char) (off : Nat) :
    scanBody true (fuel + 1) acc (c :: cs) off = scanBody true fuel (c :: acc) cs (off + c.utf8Size) := by
  simp [scanBody, h3]

lemma scanBody_escapeChar (fuel : Nat) (acc : List Char) (c : Char) (cs : List Char) (off : Nat) :
    ∃ off', scanBody true (fuel + 1) acc ((escapeChar c).toList ++ cs) off =
      scanBody true fuel (c :: acc) cs off' := by
  by_cases h1 : c = '"'
  · subst h1; exact ⟨_, rfl⟩
  by_cases h2 : c = '\\'
  · subst h2; exact ⟨_, rfl⟩
  by_cases h3 : c = '\n'
  · subst h3; exact ⟨_, rfl⟩
  by_cases h4 : c = '\r'
  · subst h4; exact ⟨_, rfl⟩
  by_cases h5 : c = '\t'
  · subst h5; exact ⟨_, rfl⟩
  by_cases h6 : c = '\x08'
  · subst h6; exact ⟨_, rfl⟩
  by_cases h7 : c = '\x0c'
  · subst h7; exact ⟨_, rfl⟩
  rw [escapeChar_of_ne h1 h2 h3 h4 h5 h6 h7]
  split
  · -- a control character, written as a `\u` escape of four hexadecimal digits
    rename_i hcon
    obtain ⟨hlen, hmap⟩ := hex4_control c.toNat hcon
    rcases hh : (hex4 c.toNat).toList with _ | ⟨a, _ | ⟨b, _ | ⟨d, _ | ⟨e, _ | ⟨f, t⟩⟩⟩⟩⟩ <;>
      simp only [hh, List.length_cons, List.length_nil] at hlen <;> try omega
    simp only [hh, List.map_cons, List.map_nil, List.cons.injEq, and_true] at hmap
    obtain ⟨ha, hb, hd, he⟩ := hmap
    have hq := hexQuad_digits ha hb hd he cs (off + 2)
    have hn : ((0 * 16 + 0) * 16 + c.toNat / 16) * 16 + c.toNat % 16 = c.toNat := by omega
    rw [hn] at hq
    have hsur : isTrailing c.toNat = false ∧ isLeading c.toNat = false := by
      constructor <;> simp [isTrailing, isLeading] <;> omega
    refine ⟨off + 2 + 4, ?_⟩
    have hu : ("\\u" : String).toList = ['\\', 'u'] := rfl
    simp only [String.toList_append, hh, hu]
    simp [scanBody, shortEscape, unicodeEscape, hq, hsur]
  · rename_i hcon
    exact ⟨_, by simpa using scanBody_plain h1 h2 hcon fuel acc cs off⟩

lemma escaped_cons (c : Char) (s : List Char) :
    escaped (c :: s) = (escapeChar c).toList ++ escaped s := by
  simp [escaped]

lemma scanBody_escaped (s : List Char) : ∀ (fuel : Nat) (acc rest : List Char) (off : Nat),
    s.length < fuel →
      ∃ off', scanBody true fuel acc (escaped s ++ '"' :: rest) off = .ok (s.reverse ++ acc, rest, off') := by
  induction s with
  | nil =>
    intro fuel acc rest off h
    obtain ⟨fuel, rfl⟩ : ∃ f, fuel = f + 1 := ⟨fuel - 1, by simp at h; omega⟩
    exact ⟨off + 1, rfl⟩
  | cons c s ih =>
    intro fuel acc rest off h
    obtain ⟨fuel, rfl⟩ : ∃ f, fuel = f + 1 := ⟨fuel - 1, by simp at h; omega⟩
    obtain ⟨off1, h1⟩ := scanBody_escapeChar fuel acc c (escaped s ++ '"' :: rest) off
    obtain ⟨off2, h2⟩ := ih fuel (c :: acc) rest off1 (by simp at h; omega)
    refine ⟨off2, ?_⟩
    rw [escaped_cons, List.append_assoc, h1, h2]
    simp

lemma length_le_escaped (s : List Char) : s.length ≤ (escaped s).length := by
  induction s with
  | nil => simp [escaped]
  | cons c s ih =>
    have : 0 < (escapeChar c).toList.length := by
      unfold escapeChar; split <;> (try split) <;> simp [String.toList_append]
    simp only [escaped_cons, List.length_append, List.length_cons]
    omega

lemma reads_readString {F : List Char → Prop} (s : String) :
    Reads F readString (escaped s.toList ++ ['"']) s := by
  intro rest pos bound _ hlen
  have hfuel : s.toList.length < bound + 1 := by
    have := length_le_escaped s.toList
    simp only [List.length_append] at hlen
    omega
  obtain ⟨off, hs⟩ := scanBody_escaped s.toList (bound + 1) [] rest pos hfuel
  refine ⟨off, ?_⟩
  simp only [Json.readString, runAt_bind, runAt_get, List.append_assoc, List.singleton_append, hs]
  simp [runAt_set, runAt_pure]

lemma reads_readKey {F : List Char → Prop} (s : String) :
    Reads F readKey (quote s).toList s := by
  rw [toList_quote]
  exact (reads_eat (F := fun _ => True) '"').bind (reads_readString s) (fun _ _ => trivial)

/-! ### Sequences -/

/-- Text that may follow a value: it cannot continue a number. -/
def Delimited (rest : List Char) : Prop :=
  ∀ c ∈ rest.head?, c.isDigit = false ∧ c ≠ '.' ∧ c ≠ 'e' ∧ c ≠ 'E'

/-- Text that can stand for the next item: it starts with a character that is no blank and does
not close the sequence. -/
def StartsItem (t : List Char) : Prop := ∃ c r, t = c :: r ∧ isBlank c = false ∧ c ≠ ']'

lemma reads_nextItem_end {bl : List Char} (hbl : Blanks bl) (first : Bool) :
    Reads (·.head? = some ']') (nextItem first) bl false := by
  rw [← List.append_nil bl]
  exact (reads_skipBlank hbl (by decide)).bind (Reads.pure' false) (fun _ h => h)

lemma reads_nextItem_first {nl : List Char} (hnl : Blanks nl) {c : Char} (hc : isBlank c = false)
    (hc' : c ≠ ']') : Reads (·.head? = some c) (nextItem true) nl true := by
  rw [← List.append_nil nl]
  refine (reads_skipBlank hnl hc).bind ?_ (fun _ h => h)
  split
  case h_1 => contradiction
  case h_2 heq =>
    simp only [Option.some.injEq] at heq
    exact absurd heq hc'
  case h_3 => exact Reads.pure' true

lemma reads_nextItem_comma {nl : List Char} (hnl : Blanks nl) {c : Char} (hc : isBlank c = false)
    (hc' : c ≠ ']') : Reads (·.head? = some c) (nextItem false) (',' :: nl) true := by
  have h : Reads (·.head? = some c) (nextItem false) ([] ++ ([','] ++ (nl ++ []))) true := by
    refine (reads_skipBlank (fun _ h => by simp at h) (c := ',') (by decide)).bind ?_ (fun _ _ => rfl)
    refine (reads_eat (F := fun _ => True) ',').bind ((reads_skipBlank hnl hc).bind ?_ (fun _ h => h))
      (fun _ _ => trivial)
    split
    case h_1 heq =>
      simp only [Option.some.injEq] at heq
      exact absurd heq hc'
    case h_2 => exact Reads.pure' true
    case h_3 => contradiction
  simpa using h

lemma delimited_cons {c : Char} (hc : c = ',' ∨ c = ']' ∨ c = '}' ∨ isBlank c = true)
    (r : List Char) : Delimited (c :: r) := by
  intro x hx
  simp only [List.head?_cons, Option.mem_def, Option.some.injEq] at hx
  subst hx
  rcases hc with rfl | rfl | rfl | hb
  · decide
  · decide
  · decide
  · simp only [isBlank, Bool.or_eq_true, beq_iff_eq] at hb
    rcases hb with ((rfl | rfl) | rfl) | rfl <;> decide

/-- Items one per line: each after a comma but the first, and after the line break `nl`. -/
def itemsText (nl : List Char) : Bool → List (List Char) → List Char
  | _, [] => []
  | first, t :: ts => (if first then [] else [',']) ++ nl ++ t ++ itemsText nl false ts

lemma delimited_itemsText {bl : List Char} (hbl : Blanks bl) (nl : List Char) (ts : List (List Char))
    {rest : List Char} (hr : rest.head? = some ']') : Delimited (itemsText nl false ts ++ bl ++ rest) := by
  rcases ts with _ | ⟨t, ts⟩
  · rcases bl with _ | ⟨b, bl⟩
    · rcases rest with _ | ⟨c, rest⟩
      · simp at hr
      · simp only [List.head?_cons, Option.some.injEq] at hr
        subst hr
        exact delimited_cons (by simp) _
    · exact delimited_cons (.inr (.inr (.inr (hbl b (by simp))))) _
  · exact delimited_cons (by simp) _

/-- **The items of a sequence are read one by one**, each with `item`, as long as the fuel
exceeds their number. -/
lemma reads_itemsLoop {item : Reader α} {nl bl : List Char} (hnl : Blanks nl) (hbl : Blanks bl)
    {ts : List (List Char)} {as : List α}
    (h : List.Forall₂ (fun t a => StartsItem t ∧ Reads Delimited item t a) ts as) :
    ∀ (fuel : Nat) (first : Bool) (acc : List α), ts.length < fuel →
      Reads (·.head? = some ']') (Json.itemsLoop item fuel first acc) (itemsText nl first ts ++ bl)
        (acc.reverse ++ as) := by
  induction h with
  | nil =>
    intro fuel first acc hf
    obtain ⟨fuel, rfl⟩ : ∃ f, fuel = f + 1 := ⟨fuel - 1, by simp at hf; omega⟩
    rw [Json.itemsLoop, itemsText, List.nil_append, List.append_nil, ← List.append_nil bl]
    refine (reads_nextItem_end hbl first).bind ?_ (fun _ h => h)
    exact Reads.pure' _
  | @cons t a ts as ht _ ih =>
    intro fuel first acc hf
    obtain ⟨fuel, rfl⟩ : ∃ f, fuel = f + 1 := ⟨fuel - 1, by simp at hf; omega⟩
    obtain ⟨⟨c, r, rfl, hc, hc'⟩, hitem⟩ := ht
    have hloop := ih fuel false (a :: acc) (by simp at hf; omega)
    rw [List.reverse_cons, List.append_assoc, List.singleton_append] at hloop
    have hbody : Reads (·.head? = some ']') (do let x ← item; Json.itemsLoop item fuel false (x :: acc))
        ((c :: r) ++ (itemsText nl false ts ++ bl)) (acc.reverse ++ a :: as) :=
      hitem.bind hloop (fun rest hr => delimited_itemsText hbl nl ts hr)
    rw [Json.itemsLoop]
    cases first
    · have e : itemsText nl false ((c :: r) :: ts) ++ bl =
          (',' :: nl) ++ ((c :: r) ++ (itemsText nl false ts ++ bl)) := by
        simp [itemsText]
      rw [e]
      exact (reads_nextItem_comma hnl hc hc').bind hbody (fun _ _ => rfl)
    · have e : itemsText nl true ((c :: r) :: ts) ++ bl =
          nl ++ ((c :: r) ++ (itemsText nl false ts ++ bl)) := by
        simp [itemsText]
      rw [e]
      exact (reads_nextItem_first hnl hc hc').bind hbody (fun _ _ => rfl)

lemma length_le_itemsText (nl : List Char) :
    ∀ (first : Bool) (ts : List (List Char)), (∀ t ∈ ts, t ≠ []) →
      ts.length ≤ (itemsText nl first ts).length
  | _, [], _ => by simp [itemsText]
  | first, t :: ts, h => by
    have h1 := length_le_itemsText nl false ts (fun t' ht' => h t' (by simp [ht']))
    have h2 : 0 < t.length := List.length_pos_iff.2 (h t (by simp))
    simp only [itemsText, List.length_append, List.length_cons]
    omega

lemma reads_items {item : Reader α} {nl bl : List Char} (hnl : Blanks nl) (hbl : Blanks bl)
    {ts : List (List Char)} {as : List α}
    (h : List.Forall₂ (fun t a => StartsItem t ∧ Reads Delimited item t a) ts as) :
    Reads (·.head? = some ']') (Json.items item) (itemsText nl true ts ++ bl) as := by
  intro rest pos bound hr hlen
  have hne : ∀ t ∈ ts, t ≠ [] := by
    clear hr hlen
    induction h with
    | nil => simp
    | cons ht _ ih =>
      intro t' h'
      rcases List.mem_cons.1 h' with rfl | h'
      · obtain ⟨⟨c, r, rfl, -⟩, -⟩ := ht
        simp
      · exact ih t' h'
  have hts := length_le_itemsText nl true ts hne
  obtain ⟨pos', hrun⟩ := reads_itemsLoop hnl hbl h (bound + 1) true []
    (by simp only [List.length_append] at hlen; omega) rest pos bound hr hlen
  exact ⟨pos', by simpa [Json.items, runAt_bind, runAt_get] using hrun⟩

/-! ### Objects -/

lemma reads_nextKey_end {bl : List Char} (hbl : Blanks bl) (first : Bool) :
    Reads (·.head? = some '}') (nextKey first) bl false := by
  rw [← List.append_nil bl]
  exact (reads_skipBlank hbl (by decide)).bind (Reads.pure' false) (fun _ h => h)

lemma reads_nextKey_first {nl : List Char} (hnl : Blanks nl) :
    Reads (·.head? = some '"') (nextKey true) nl true := by
  rw [← List.append_nil nl]
  exact (reads_skipBlank hnl (by decide)).bind (Reads.pure' true) (fun _ h => h)

lemma reads_nextKey_comma {nl : List Char} (hnl : Blanks nl) :
    Reads (·.head? = some '"') (nextKey false) (',' :: nl) true := by
  have h : Reads (·.head? = some '"') (nextKey false) ([] ++ ([','] ++ (nl ++ []))) true :=
    (reads_skipBlank (fun _ h => by simp at h) (c := ',') (by decide)).bind
      ((reads_eat (F := fun _ => True) ',').bind
        ((reads_skipBlank hnl (by decide)).bind (Reads.pure' true) (fun _ h => h))
        (fun _ _ => trivial)) (fun _ _ => rfl)
  simpa using h

/-- Members one per line: each after a comma but the first, and after the line break `nl`, is a
quoted key, a colon, and the text of its value (which starts with the blank after the colon). -/
def membersText (nl : List Char) : Bool → List (String × List Char) → List Char
  | _, [] => []
  | first, (k, t) :: ms =>
    (if first then [] else [',']) ++ nl ++ (quote k).toList ++ ':' :: t ++ membersText nl false ms

lemma delimited_membersText {bl : List Char} (hbl : Blanks bl) (nl : List Char)
    (ms : List (String × List Char)) {rest : List Char} (hr : rest.head? = some '}') :
    Delimited (membersText nl false ms ++ bl ++ rest) := by
  rcases ms with _ | ⟨⟨k, t⟩, ms⟩
  · rcases bl with _ | ⟨b, bl⟩
    · rcases rest with _ | ⟨c, rest⟩
      · simp at hr
      · simp only [List.head?_cons, Option.some.injEq] at hr
        subst hr
        exact delimited_cons (by simp) _
    · exact delimited_cons (.inr (.inr (.inr (hbl b (by simp))))) _
  · exact delimited_cons (by simp) _

/-- **The members of an object are read one by one**, each value with `value`, as long as the
fuel exceeds their number. -/
lemma reads_membersLoop {value : Reader α} {nl bl : List Char} (hnl : Blanks nl) (hbl : Blanks bl)
    {ms : List (String × List Char)} {vs : List (String × α)}
    (h : List.Forall₂ (fun m v => m.1 = v.1 ∧ Reads Delimited value m.2 v.2) ms vs) :
    ∀ (fuel : Nat) (first : Bool) (acc : List (String × α)), ms.length < fuel →
      Reads (·.head? = some '}') (Json.membersLoop value fuel first acc) (membersText nl first ms ++ bl)
        (acc.reverse ++ vs) := by
  induction h with
  | nil =>
    intro fuel first acc hf
    obtain ⟨fuel, rfl⟩ : ∃ f, fuel = f + 1 := ⟨fuel - 1, by simp at hf; omega⟩
    rw [Json.membersLoop, membersText, List.nil_append, List.append_nil, ← List.append_nil bl]
    refine (reads_nextKey_end hbl first).bind ?_ (fun _ h => h)
    exact Reads.pure' _
  | @cons m v ms vs hm _ ih =>
    intro fuel first acc hf
    obtain ⟨fuel, rfl⟩ : ∃ f, fuel = f + 1 := ⟨fuel - 1, by simp at hf; omega⟩
    rcases m with ⟨k, t⟩
    rcases v with ⟨k', b⟩
    obtain ⟨rfl, hvalue⟩ := hm
    have hloop := ih fuel false ((k, b) :: acc) (by simp at hf; omega)
    rw [List.reverse_cons, List.append_assoc, List.singleton_append] at hloop
    have hbody : Reads (·.head? = some '}')
        (do let k ← Json.readKey; Json.colon; let v ← value; Json.membersLoop value fuel false ((k, v) :: acc))
        ((quote k).toList ++ (([] ++ [':']) ++ (t ++ (membersText nl false ms ++ bl))))
        (acc.reverse ++ (k, b) :: vs) :=
      (reads_readKey (F := fun _ => True) k).bind ((reads_colon (F := fun _ => True) (fun _ h => by simp at h)).bind
        (hvalue.bind hloop (fun rest hr => delimited_membersText hbl nl ms hr))
        (fun _ _ => trivial)) (fun _ _ => trivial)
    rw [Json.membersLoop]
    cases first
    · have e : membersText nl false ((k, t) :: ms) ++ bl =
          (',' :: nl) ++ ((quote k).toList ++ (([] ++ [':']) ++ (t ++ (membersText nl false ms ++ bl)))) := by
        simp [membersText]
      rw [e]
      exact (reads_nextKey_comma hnl).bind hbody (fun _ _ => by simp [toList_quote])
    · have e : membersText nl true ((k, t) :: ms) ++ bl =
          nl ++ ((quote k).toList ++ (([] ++ [':']) ++ (t ++ (membersText nl false ms ++ bl)))) := by
        simp [membersText]
      rw [e]
      exact (reads_nextKey_first hnl).bind hbody (fun _ _ => by simp [toList_quote])

lemma length_le_membersText (nl : List Char) :
    ∀ (first : Bool) (ms : List (String × List Char)), ms.length ≤ (membersText nl first ms).length
  | _, [] => by simp [membersText]
  | first, (k, t) :: ms => by
    have := length_le_membersText nl false ms
    simp only [membersText, List.length_append, List.length_cons, toList_quote]
    omega

lemma reads_members {value : Reader α} {nl bl : List Char} (hnl : Blanks nl) (hbl : Blanks bl)
    {ms : List (String × List Char)} {vs : List (String × α)}
    (h : List.Forall₂ (fun m v => m.1 = v.1 ∧ Reads Delimited value m.2 v.2) ms vs) :
    Reads (·.head? = some '}') (Json.members value) (membersText nl true ms ++ bl) vs := by
  intro rest pos bound hr hlen
  have hms := length_le_membersText nl true ms
  obtain ⟨pos', hrun⟩ := reads_membersLoop hnl hbl h (bound + 1) true []
    (by simp only [List.length_append] at hlen; omega) rest pos bound hr hlen
  exact ⟨pos', by simpa [Json.members, runAt_bind, runAt_get] using hrun⟩

/-! ### Indented text -/

lemma pretty_arr_cons (level : Nat) (x : Value) (xs : List Value) :
    (Value.arr (x :: xs)).pretty level =
      "[" ++ String.join (Value.prettyItems (level + 1) true (x :: xs)) ++ newline level ++ "]" := by
  rw [Value.pretty]
  exact List.cons_ne_nil x xs

lemma pretty_obj_cons (level : Nat) (m : String × Value) (ms : List (String × Value)) :
    (Value.obj (m :: ms)).pretty level =
      "\x7b" ++ String.join (Value.prettyMembers (level + 1) true (m :: ms)) ++ newline level ++ "\x7d" := by
  rw [Value.pretty]
  exact List.cons_ne_nil m ms

lemma toList_prettyItems (level : Nat) :
    ∀ (first : Bool) (xs : List Value), (String.join (Value.prettyItems level first xs)).toList =
      itemsText (newline level).toList first (xs.map fun x => (x.pretty level).toList)
  | _, [] => by simp [Value.prettyItems, itemsText]
  | first, x :: xs => by
    rw [Value.prettyItems, String.join_cons, String.toList_append, toList_prettyItems level false xs]
    cases first <;> simp [itemsText, String.toList_append]

lemma toList_prettyMembers (level : Nat) :
    ∀ (first : Bool) (ms : List (String × Value)), (String.join (Value.prettyMembers level first ms)).toList =
      membersText (newline level).toList first (ms.map fun m => (m.1, ' ' :: (m.2.pretty level).toList))
  | _, [] => by simp [Value.prettyMembers, membersText]
  | first, (k, v) :: ms => by
    rw [Value.prettyMembers, String.join_cons, String.toList_append, toList_prettyMembers level false ms]
    cases first <;> simp [membersText, String.toList_append]

lemma blanks_newline (level : Nat) : Blanks (newline level).toList := by
  intro c hc
  simp only [newline, String.toList_append, String.toList_ofList, List.mem_append,
    List.mem_replicate] at hc
  rcases hc with hc | ⟨-, rfl⟩
  · have : c = '\n' := by simpa using hc
    subst this
    rfl
  · rfl

example : True := trivial
lemma toList_pretty_arr (level : Nat) (xs : List Value) :
    ((Value.arr xs).pretty level).toList =
      '[' :: (itemsText (newline (level + 1)).toList true (xs.map fun x => (x.pretty (level + 1)).toList) ++
        ((if xs = [] then [] else (newline level).toList) ++ [']'])) := by
  rcases xs with _ | ⟨x, xs⟩
  · rw [Value.pretty]
    rfl
  · rw [pretty_arr_cons, String.toList_append, String.toList_append, String.toList_append,
      toList_prettyItems]
    simp

lemma toList_pretty_obj (level : Nat) (ms : List (String × Value)) :
    ((Value.obj ms).pretty level).toList =
      '\x7b' :: (membersText (newline (level + 1)).toList true
          (ms.map fun m => (m.1, ' ' :: (m.2.pretty (level + 1)).toList)) ++
        ((if ms = [] then [] else (newline level).toList) ++ ['\x7d'])) := by
  rcases ms with _ | ⟨m, ms⟩
  · rw [Value.pretty]
    rfl
  · rw [pretty_obj_cons, String.toList_append, String.toList_append, String.toList_append,
      toList_prettyMembers]
    simp

lemma blanks_newline_if (p : Prop) [Decidable p] (level : Nat) :
    Blanks (if p then [] else (newline level).toList) := by
  split
  · intro c hc
    simp at hc
  · exact blanks_newline level

end SimRegress.Json
