import Mathlib
import SimRegress.Proofs.Json.Reading

/-!
Reading numbers and values back.

A number that `scanNumber` reads to the end of its text is read the same when text follows that
cannot continue it (`scanNumber_append`), so a number printed among other values reads as if it
stood alone. `numberOfText?` is the number a whole text stands for, sign included; a value whose
text it reads is read as that number (`reads_readAny_number`). The digits of a count below
`2 ^ 64` read back as the count (`scanNumber_toDigits`).
-/

namespace SimRegress.Json

/-! ### Numbers before other text -/

lemma drop_takeWhile_isDigit_append (cs rest : List Char) :
    (cs ++ rest).drop (cs.takeWhile Char.isDigit).length =
      cs.drop (cs.takeWhile Char.isDigit).length ++ rest :=
  List.drop_append_of_le_length (List.takeWhile_prefix Char.isDigit).length_le

section Frame

variable {rest : List Char} (hr : Delimited rest)
include hr

lemma takeWhile_isDigit_append (cs : List Char) :
    (cs ++ rest).takeWhile Char.isDigit = cs.takeWhile Char.isDigit := by
  induction cs with
  | nil =>
    cases rest with
    | nil => rfl
    | cons c r => exact List.takeWhile_cons_of_neg (by simp [(hr c rfl).1])
  | cons c cs ih =>
    by_cases hc : c.isDigit = true
    · rw [List.cons_append, List.takeWhile_cons_of_pos hc, List.takeWhile_cons_of_pos hc, ih]
    · rw [List.cons_append, List.takeWhile_cons_of_neg hc, List.takeWhile_cons_of_neg hc]

lemma takeSignificand_append (sig : Nat) (cs : List Char) :
    takeSignificand sig (cs ++ rest) =
      ((takeSignificand sig cs).1, (takeSignificand sig cs).2.1, (takeSignificand sig cs).2.2 ++ rest) := by
  induction cs generalizing sig with
  | nil =>
    cases rest with
    | nil => rfl
    | cons c r => simp [takeSignificand, (hr c rfl).1]
  | cons c cs ih =>
    simp only [List.cons_append, takeSignificand]
    split
    · rw [ih]
    · rfl

lemma exponentDigits_append (positive positiveExp : Bool) (sig : Nat) (start : Int) (cs : List Char) :
    ∀ e k, exponentDigits positive positiveExp sig start e (cs ++ rest) k =
      exponentDigits positive positiveExp sig start e cs k := by
  induction cs with
  | nil =>
    intro e k
    cases rest with
    | nil => rfl
    | cons c r => simp [exponentDigits, (hr c rfl).1]
  | cons c cs ih =>
    intro e k
    simp only [List.cons_append, exponentDigits, ih, takeWhile_isDigit_append hr]

lemma scanExponent_append {positive : Bool} {sig : Nat} {start : Int} {cs : List Char} {k : Nat}
    {x : Number × Nat} (h : scanExponent positive sig start cs k = .ok x) :
    scanExponent positive sig start (cs ++ rest) k = .ok x := by
  -- the `e` and an optional sign are read as before; the digits then stop at `rest`
  rcases cs with _ | ⟨e, _ | ⟨c, t⟩⟩
  · simp [scanExponent] at h
  · simp [scanExponent] at h
  by_cases hp : c = '+'
  · subst hp
    rcases t with _ | ⟨d, t⟩
    · simp [scanExponent] at h
    · simp only [scanExponent, List.cons_append, List.drop_succ_cons, List.drop_zero] at h ⊢
      split at h
      · rw [if_pos ‹_›, exponentDigits_append hr, h]
      · simp at h
  by_cases hm : c = '-'
  · subst hm
    rcases t with _ | ⟨d, t⟩
    · simp [scanExponent] at h
    · simp only [scanExponent, List.cons_append, List.drop_succ_cons, List.drop_zero] at h ⊢
      split at h
      · rw [if_pos ‹_›, exponentDigits_append hr, h]
      · simp at h
  · simp only [scanExponent, List.cons_append, List.drop_succ_cons, List.drop_zero] at h ⊢
    split at h
    · simp_all
    · simp_all
      split at h
      · rw [if_pos ‹_›, exponentDigits_append hr, h]
      · simp at h

lemma head_isDigit_append (cs : List Char) :
    (cs ++ rest).head?.any Char.isDigit = cs.head?.any Char.isDigit := by
  rcases cs with _ | ⟨c, cs⟩
  · rcases rest with _ | ⟨d, r⟩
    · rfl
    · simp [(hr d rfl).1]
  · rfl

lemma decimalOverflow_append {positive : Bool} {sig : Nat} {e : Int} {cs : List Char} {k : Nat}
    {x : Number × Nat} (h : decimalOverflow positive sig e cs k = .ok x) :
    decimalOverflow positive sig e (cs ++ rest) k = .ok x := by
  simp only [decimalOverflow, takeWhile_isDigit_append hr, drop_takeWhile_isDigit_append cs rest] at h ⊢
  generalize cs.drop (cs.takeWhile Char.isDigit).length = r at h ⊢
  rcases r with _ | ⟨c, r⟩
  · -- the digits ran to the end: `rest` cannot start an exponent
    rcases rest with _ | ⟨d, rest⟩
    · simpa using h
    · obtain ⟨-, -, he, hE⟩ := hr d rfl
      simpa [he, hE] using h
  · simp only [List.cons_append] at h ⊢
    split at h
    · rw [if_pos ‹_›]
      exact scanExponent_append hr h
    · rw [if_neg ‹_›]
      exact h

lemma scanDecimal_append {positive : Bool} {sig : Nat} {before : Int} {cs : List Char} {k : Nat}
    {x : Number × Nat} (h : scanDecimal positive sig before cs k = .ok x) :
    scanDecimal positive sig before (cs ++ rest) k = .ok x := by
  rcases cs with _ | ⟨p, cs⟩
  · simp [scanDecimal, takeSignificand] at h
  simp only [scanDecimal, List.cons_append, List.drop_succ_cons, List.drop_zero,
    takeSignificand_append hr] at h ⊢
  generalize takeSignificand sig cs = t at h ⊢
  obtain ⟨sig', taken, r⟩ := t
  rcases r with _ | ⟨c, r⟩
  · -- the fraction ran to the end: `rest` neither continues it nor starts an exponent
    rcases rest with _ | ⟨d, rest⟩
    · simpa using h
    · obtain ⟨hd, -, he, hE⟩ := hr d rfl
      simp only [List.nil_append] at h ⊢
      split at h
      · simp at h
      · rename_i ht
        simp [hd, he, hE, ht, h]
  · simp only [List.cons_append] at h ⊢
    split at h
    · rw [if_pos ‹_›]
      exact decimalOverflow_append hr h
    · rw [if_neg ‹_›]
      split at h
      · simp at h
      · rw [if_neg ‹_›]
        split at h
        · rw [if_pos ‹_›]
          exact scanExponent_append hr h
        · rw [if_neg ‹_›]
          exact h

lemma longInteger_append {positive : Bool} {sig : Nat} {cs : List Char} {k : Nat}
    {x : Number × Nat} (h : longInteger positive sig cs k = .ok x) :
    longInteger positive sig (cs ++ rest) k = .ok x := by
  simp only [longInteger, takeWhile_isDigit_append hr, drop_takeWhile_isDigit_append cs rest] at h ⊢
  generalize cs.drop (cs.takeWhile Char.isDigit).length = r at h ⊢
  rcases r with _ | ⟨c, r⟩
  · -- the digits ran to the end: `rest` starts neither a fraction nor an exponent
    rcases rest with _ | ⟨d, rest⟩
    · simpa using h
    · obtain ⟨-, hp, he, hE⟩ := hr d rfl
      simpa [hp, he, hE] using h
  · simp only [List.cons_append] at h ⊢
    split at h
    · rw [if_pos ‹_›]
      exact scanDecimal_append hr h
    · rw [if_neg ‹_›]
      split at h
      · rw [if_pos ‹_›]
        exact scanExponent_append hr h
      · rw [if_neg ‹_›]
        exact h

lemma scanTail_append {positive : Bool} {sig : Nat} {cs : List Char} {k : Nat}
    {x : Number × Nat} (h : scanTail positive sig cs k = .ok x) :
    scanTail positive sig (cs ++ rest) k = .ok x := by
  rcases cs with _ | ⟨c, cs⟩
  · -- an integer: `rest` starts neither a fraction nor an exponent
    rcases rest with _ | ⟨d, rest⟩
    · simpa using h
    · obtain ⟨-, hp, he, hE⟩ := hr d rfl
      simp only [scanTail, List.nil_append] at h ⊢
      simpa [hp, he, hE] using h
  · simp only [scanTail, List.cons_append] at h ⊢
    split at h
    · rw [if_pos ‹_›]
      exact scanDecimal_append hr h
    · rw [if_neg ‹_›]
      split at h
      · rw [if_pos ‹_›]
        exact scanExponent_append hr h
      · rw [if_neg ‹_›]
        exact h

/-- **A number read to its end reads the same before any text that cannot continue it.** -/
lemma scanNumber_append {positive : Bool} {cs : List Char} {x : Number × Nat}
    (h : scanNumber positive cs = .ok x) : scanNumber positive (cs ++ rest) = .ok x := by
  rcases cs with _ | ⟨c, cs⟩
  · simp [scanNumber] at h
  simp only [scanNumber, List.cons_append] at h ⊢
  split at h
  · rw [if_pos ‹_›, head_isDigit_append hr]
    split at h
    · simp at h
    · rw [if_neg ‹_›]
      exact scanTail_append hr h
  · rw [if_neg ‹_›]
    split at h
    · rw [if_pos ‹_›, takeSignificand_append hr]
      simp only [head_isDigit_append hr]
      split at h
      · rw [if_pos ‹_›]
        exact longInteger_append hr h
      · rw [if_neg ‹_›]
        exact scanTail_append hr h
    · simp at h

end Frame

lemma reads_readNumber {positive : Bool} {cs : List Char} {n : Number}
    (h : scanNumber positive cs = .ok (n, cs.length)) : Reads Delimited (Json.readNumber positive) cs n := by
  intro rest pos bound hr _
  refine ⟨pos + cs.length, ?_⟩
  simp only [Json.readNumber, runAt_bind, runAt_get, scanNumber_append hr h]
  simp [runAt_set, runAt_pure]

/-- The number `scanNumber` reads when it reads the whole text. -/
def scanWhole (positive : Bool) (cs : List Char) : Option Number :=
  match scanNumber positive cs with
  | .ok (n, k) => if k = cs.length then some n else none
  | .error _ => none

/-- The number a text stands for when it is one whole JSON number, its sign included. -/
def numberOfText? : List Char → Option Number
  | '-' :: r => scanWhole false r
  | r => scanWhole true r

lemma scanNumber_of_scanWhole {positive : Bool} {cs : List Char} {n : Number}
    (h : scanWhole positive cs = some n) : scanNumber positive cs = .ok (n, cs.length) := by
  unfold scanWhole at h
  split at h
  · split at h
    · simp_all
    · simp at h
  · simp at h

lemma isDigit_of_scanNumber {positive : Bool} {c : Char} {cs : List Char} {x : Number × Nat}
    (h : scanNumber positive (c :: cs) = .ok x) : c.isDigit = true := by
  simp only [scanNumber] at h
  split at h
  · rename_i h0
    simp only [beq_iff_eq] at h0
    subst h0
    rfl
  · split at h
    · assumption
    · simp at h

lemma isBlank_of_isDigit {c : Char} (hc : c.isDigit = true) : isBlank c = false := by
  by_contra hb
  simp only [isBlank, Bool.not_eq_false, Bool.or_eq_true, beq_iff_eq] at hb
  rcases hb with ((rfl | rfl) | rfl) | rfl <;> simp at hc

lemma reads_readAny_digit (d : Nat) {bl r : List Char} (hbl : Blanks bl) {c : Char}
    (hc : c.isDigit = true) {n : Number} (h : scanNumber true (c :: r) = .ok (n, (c :: r).length)) :
    Reads Delimited (readAny (d + 1)) (bl ++ c :: r) (.num n) := by
  unfold readAny
  refine Reads.fixPosition ((reads_skipBlank hbl (isBlank_of_isDigit hc)).bind ?_ (fun _ _ => rfl))
  -- the digit is none of the characters that start the other kinds of value
  split
  case h_1 => contradiction
  case h_9 heq =>
    simp only [Option.some.injEq] at heq
    subst heq
    rw [if_pos hc, ← List.append_nil (c :: r)]
    exact (reads_readNumber h).bind (Reads.pure' _) (fun _ h => h)
  all_goals
    rename_i heq
    simp only [Option.some.injEq] at heq
    subst heq
    simp at hc

lemma reads_readAny_minus (d : Nat) {bl r : List Char} (hbl : Blanks bl) {n : Number}
    (h : scanNumber false r = .ok (n, r.length)) :
    Reads Delimited (readAny (d + 1)) (bl ++ '-' :: r) (.num n) := by
  have hr : Reads Delimited (readAny (d + 1)) (bl ++ ([ '-' ] ++ (r ++ []))) (.num n) :=
    Reads.fixPosition ((reads_skipBlank hbl (by decide)).bind
      ((reads_eat (F := fun _ => True) '-').bind
        ((reads_readNumber h).bind (f := fun x => pure (Value.num x)) (Reads.pure' _) (fun _ h => h))
        (fun _ _ => trivial)) (fun _ _ => rfl))
  simpa only [List.append_nil, List.singleton_append] using hr

lemma reads_readAny_string {F : List Char → Prop} (d : Nat) {bl : List Char} (hbl : Blanks bl)
    (s : String) : Reads F (readAny (d + 1)) (bl ++ (quote s).toList) (.str s) := by
  unfold readAny
  rw [toList_quote]
  refine Reads.fixPosition ((reads_skipBlank hbl (by decide)).bind ?_ (fun _ _ => rfl))
  -- the quote is none of the characters that start the other kinds of value
  split
  case h_1 => contradiction
  case h_6 =>
    rw [← List.singleton_append, List.append_assoc, ← List.append_nil (escaped s.toList ++ ['"'])]
    exact (reads_eat (F := fun _ => True) '"').bind
      ((reads_readString s).bind (f := fun x => pure (Value.str x)) (Reads.pure' _) (fun _ h => h))
      (fun _ _ => trivial)
  case h_9 heq =>
    simp only [Option.some.injEq] at heq
    subst heq
    exact absurd rfl ‹ '"' = '"' → False›
  all_goals
    rename_i heq
    simp at heq

lemma reads_readAny_number (d : Nat) {bl cs : List Char} (hbl : Blanks bl) {n : Number}
    (h : numberOfText? cs = some n) : Reads Delimited (readAny (d + 1)) (bl ++ cs) (.num n) := by
  rcases cs with _ | ⟨c, r⟩
  · simp [numberOfText?, scanWhole, scanNumber] at h
  by_cases hm : c = '-'
  · subst hm
    exact reads_readAny_minus d hbl (scanNumber_of_scanWhole h)
  · have h' : scanWhole true (c :: r) = some n := by simpa [numberOfText?, hm] using h
    have hs := scanNumber_of_scanWhole h'
    exact reads_readAny_digit d hbl (isDigit_of_scanNumber hs) hs

/-! ### Counts -/

lemma digitVal_le {c : Char} (hc : c.isDigit = true) : digitVal c ≤ 9 := by
  have := Char.isDigit_iff_toNat.1 hc
  have h0 : '0'.toNat = 48 := rfl
  have h9 : '9'.toNat = 57 := rfl
  simp only [digitVal]
  omega

lemma fitsNext_of_le {sig d : Nat} (hd : d ≤ 9) (h : 10 * sig + d ≤ maxSignificand) :
    fitsNext sig d = true := by
  simp only [maxSignificand] at h
  simp [fitsNext, maxSignificand]
  omega

lemma le_ofDigitChars (ds : List Char) (init : Nat) : init ≤ Nat.ofDigitChars 10 ds init := by
  rw [Nat.ofDigitChars_eq_ofDigitChars_zero]
  have : 1 ≤ 10 ^ ds.length := Nat.one_le_pow _ _ (by norm_num)
  nlinarith

lemma takeSignificand_digits (ds : List Char) (hd : ∀ c ∈ ds, c.isDigit = true) :
    ∀ sig, Nat.ofDigitChars 10 ds sig ≤ maxSignificand →
      takeSignificand sig ds = (Nat.ofDigitChars 10 ds sig, ds.length, []) := by
  induction ds with
  | nil => intro sig _; rfl
  | cons c ds ih =>
    intro sig h
    have hc := hd c (by simp)
    have hv : c.toNat - '0'.toNat = digitVal c := rfl
    rw [Nat.ofDigitChars_cons, hv] at h ⊢
    have hfit : fitsNext sig (digitVal c) = true :=
      fitsNext_of_le (digitVal_le hc) (le_trans (le_ofDigitChars ds _) h)
    simp only [takeSignificand, hc, hfit, Bool.true_and, if_true,
      ih (fun c h => hd c (by simp [h])) _ h, List.length_cons]

lemma head_toDigits_ne_zero : ∀ n, 0 < n → (Nat.toDigits 10 n).head? ≠ some '0' := by
  intro n
  induction n using Nat.strong_induction_on with
  | _ n ih =>
    intro hn
    by_cases h10 : n < 10
    · rw [Nat.toDigits_of_lt_base h10]
      interval_cases n <;> decide
    · rw [Nat.toDigits_of_base_le (by norm_num) (by omega), List.head?_append_of_ne_nil _ Nat.toDigits_ne_nil]
      exact ih (n / 10) (by omega) (by omega)

lemma scanNumber_toDigits {n : Nat} (hn : n < 2 ^ 64) :
    scanNumber true (Nat.toDigits 10 n) = .ok (.nat n, (Nat.toDigits 10 n).length) := by
  rcases Nat.eq_zero_or_pos n with rfl | hpos
  · rfl
  obtain ⟨c, ds, hcd⟩ := List.exists_cons_of_ne_nil (Nat.toDigits_ne_nil (n := n) (b := 10))
  have hdig : ∀ x ∈ Nat.toDigits 10 n, x.isDigit = true :=
    fun x hx => Nat.isDigit_of_mem_toDigits (by norm_num) (by norm_num) hx
  have hc0 : c ≠ '0' := by
    have := head_toDigits_ne_zero n hpos
    rw [hcd] at this
    simpa using this
  have hval : Nat.ofDigitChars 10 ds (digitVal c) = n := by
    have := Nat.ofDigitChars_ten_toDigits (n := n)
    rw [hcd, Nat.ofDigitChars_cons, Nat.mul_zero, Nat.zero_add] at this
    exact this
  rw [hcd] at hdig ⊢
  have ht := takeSignificand_digits ds (fun x hx => hdig x (by simp [hx])) (digitVal c)
    (by rw [hval, maxSignificand]; omega)
  simp [scanNumber, hc0, hdig c (by simp), ht, hval, scanTail, Nat.add_comm]

end SimRegress.Json
