import Mathlib
import SimRegress.Tree.Basic
import SimRegress.Proofs.Text.Strict

/-!
# Names of entries

The bytes of a name that is text are the encoding of that text, which strict decoding reads
back, while the bytes of a name that is not text do not decode: so a name is known by its bytes
(`OsName.toBytes_injective`), and the order of names by their bytes is a linear order. On a name
that is text, its text view and its lossy view are that text.
-/

namespace SimRegress

namespace OsName

@[simp] lemma toStr?_text (s : String) : (OsName.text s).toStr? = some s := rfl

@[simp] lemma lossy_text (s : String) : (OsName.text s).lossy = s := rfl

lemma toStr?_eq_some {n : OsName} {s : String} : n.toStr? = some s ↔ n = .text s := by
  cases n <;> simp [toStr?]

lemma toStr?_any_iff {n : OsName} {p : String → Bool} :
    n.toStr?.any p = true ↔ ∃ s, n = .text s ∧ p s = true := by
  cases n <;> simp [toStr?]

lemma decodeStrict?_toBytes (n : OsName) : Text.decodeStrict? n.toBytes = n.toStr? := by
  cases n with
  | text s => exact Text.decodeStrict?_encode s
  | bytes b hb => exact hb

lemma toBytes_injective : Function.Injective toBytes := by
  intro a b h
  have hstr : a.toStr? = b.toStr? := by rw [← decodeStrict?_toBytes, h, decodeStrict?_toBytes]
  cases a with
  | text s =>
    cases b with
    | text s' => simpa [toStr?] using hstr
    | bytes b hb => cases hstr
  | bytes a ha =>
    cases b with
    | text s' => cases hstr
    | bytes b hb =>
      simp only [toBytes] at h
      subst h
      rfl

/-- Names are ordered by their bytes, lexicographically. -/
instance : LinearOrder OsName where
  le_refl a := List.le_refl a.toBytes
  le_trans _ _ _ := List.le_trans
  le_antisymm _ _ h h' := toBytes_injective (List.le_antisymm h h')
  le_total a b := List.le_total a.toBytes b.toBytes
  lt_iff_le_not_ge _ _ :=
    ⟨fun h => ⟨List.le_of_lt h, List.not_le.mpr h⟩, fun h => List.not_le.mp h.2⟩
  toDecidableLE := inferInstance

end OsName

end SimRegress
