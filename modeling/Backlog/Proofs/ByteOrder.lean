import Backlog.Text.Utf8
import Mathlib.Data.Char
import Mathlib.Data.List.Basic

set_option relaxedAutoImplicit false
set_option autoImplicit false

/-!
# Texts in the order of their bytes

Texts are compared character by character. A program that only sees the bytes that spell them
compares these one by one, and finds the same order: of two characters, the greater one is spelled
by greater bytes, and no spelling is the beginning of another one.

## Main definitions

* `Backlog.Text.Precedes` — two lists of bytes differ somewhere, and first in a smaller byte.

## Main results

* `Backlog.Text.compare_append` — beginnings of one length are compared first.
* `Backlog.Text.precedes_utf8EncodeChar` — the smaller of two characters has the smaller bytes.
* `Backlog.Text.compare_toUtf8` — texts are ordered as their bytes are.
* `Backlog.Text.compare_map_toUtf8` — so are lists of texts, text by text.
* `Backlog.Text.length_toUtf8`, `Backlog.Text.byteLength_append` — the length of the bytes.
-/

namespace Backlog.Text

/-! ## Lists -/

/-- At the first place where the two lists differ, the first one has the smaller byte. Neither of
them is the beginning of the other. -/
def Precedes : List UInt8 → List UInt8 → Prop
  | x :: xs, y :: ys => x.toNat < y.toNat ∨ x.toNat = y.toNat ∧ Precedes xs ys
  | _, _ => False

/-- Whatever follows, a list that precedes another one comes first. -/
lemma compare_append_of_precedes {xs ys : List UInt8} (h : Precedes xs ys) (s t : List UInt8) :
    compare (xs ++ s) (ys ++ t) = .lt := by
  induction xs generalizing ys with
  | nil => simp [Precedes] at h
  | cons x xs ih =>
    cases ys with
    | nil => simp [Precedes] at h
    | cons y ys =>
      rw [List.cons_append, List.cons_append, List.compare_cons_cons]
      rcases h with less | ⟨same, later⟩
      · have first : compare x y = .lt := Std.compare_eq_lt.mpr (UInt8.lt_iff_toNat_lt.mpr less)
        rw [first]
        rfl
      · obtain rfl := UInt8.toNat_inj.mp same
        rw [Std.ReflOrd.compare_self]
        exact ih later

/-- **Beginnings of one length are compared first**, and then what follows them. -/
lemma compare_append {α : Type} [Ord α] {r s : List α} (length : r.length = s.length)
    (t u : List α) : compare (r ++ t) (s ++ u) = (compare r s).then (compare t u) := by
  induction r generalizing s with
  | nil =>
    obtain rfl := List.eq_nil_of_length_eq_zero length.symm
    rfl
  | cons a r ih =>
    cases s with
    | nil => cases length
    | cons b s =>
      rw [List.cons_append, List.cons_append, List.compare_cons_cons, List.compare_cons_cons,
        ih (Nat.succ.inj length), Ordering.then_assoc]

/-- A beginning that two lists share does not matter. -/
lemma compare_append_left {α : Type} [Ord α] [Std.ReflOrd α] (r s t : List α) :
    compare (r ++ s) (r ++ t) = compare s t := by
  rw [compare_append rfl, Std.ReflOrd.compare_self, Ordering.eq_then]

/-! ## Characters -/

/-- The code points end at `0x10FFFF`. -/
lemma val_toNat_lt (c : Char) : c.val.toNat < 0x110000 := by
  rcases c.valid with low | ⟨-, high⟩
  · exact lt_trans low (by decide)
  · exact high

/-- **The smaller of two characters has the smaller bytes.**

**Proof sketch.** With fewer bytes for the smaller one its first byte is smaller, since that tells
the number of the bytes. With equally many, the bytes hold the digits of the code points to the
base `64`, the highest first. -/
lemma precedes_utf8EncodeChar {a b : Char} (h : a < b) :
    Precedes (String.utf8EncodeChar a) (String.utf8EncodeChar b) := by
  have less : a.val.toNat < b.val.toNat := UInt32.lt_iff_toNat_lt.mp h
  have bound : b.val.toNat < 0x110000 := val_toNat_lt b
  have second (n : ℕ) : n / 4096 = n / 64 / 64 := by omega
  have third (n : ℕ) : n / 262144 = n / 64 / 64 / 64 := by omega
  simp only [String.utf8EncodeChar, second, third]
  -- one case for each pair of numbers of bytes
  split_ifs <;> simp only [Precedes, UInt8.toNat_ofNat', or_false, and_false] <;> omega

/-- A character is spelled by at least one byte, which stands behind nothing. -/
lemma compare_nil_utf8EncodeChar (c : Char) (s : List UInt8) :
    compare [] (String.utf8EncodeChar c ++ s) = .lt := by
  obtain ⟨x, xs, bytes⟩ := List.exists_cons_of_ne_nil (String.utf8EncodeChar_ne_nil (c := c))
  rw [bytes, List.cons_append, List.compare_nil_cons]

/-! ## Texts -/

/-- The bytes of a text are those of its first character and those of the rest. -/
lemma toUtf8_cons (c : Char) (t : Text) : toUtf8 (c :: t) = String.utf8EncodeChar c ++ toUtf8 t :=
  List.flatMap_cons

/-- **Texts are ordered as their bytes are.**

**Proof sketch.** Induction on the two texts. Where their first characters differ, the bytes of the
smaller one come first. Where they are the same, their bytes do not matter. -/
theorem compare_toUtf8 (s t : Text) : compare (toUtf8 s) (toUtf8 t) = compare s t := by
  induction s generalizing t with
  | nil =>
    cases t with
    | nil => rfl
    | cons c t =>
      rw [toUtf8_cons, List.compare_nil_cons]
      exact compare_nil_utf8EncodeChar c (toUtf8 t)
  | cons a s ih =>
    cases t with
    | nil =>
      rw [toUtf8_cons, List.compare_cons_nil, Std.OrientedOrd.eq_swap]
      exact congrArg Ordering.swap (compare_nil_utf8EncodeChar a (toUtf8 s))
    | cons b t =>
      rw [toUtf8_cons, toUtf8_cons, List.compare_cons_cons]
      cases compared : compare a b with
      | lt =>
        have less : a < b := compare_lt_iff_lt.mp compared
        exact compare_append_of_precedes (precedes_utf8EncodeChar less) _ _
      | gt =>
        have more : b < a := compare_gt_iff_gt.mp compared
        rw [Std.OrientedOrd.eq_swap]
        exact congrArg Ordering.swap
          (compare_append_of_precedes (precedes_utf8EncodeChar more) _ _)
      | eq =>
        obtain rfl : a = b := compare_eq_iff_eq.mp compared
        rw [compare_append_left, ih]
        rfl

/-- **Lists of texts are ordered as those of their bytes are.** -/
theorem compare_map_toUtf8 (s t : List Text) :
    compare (s.map toUtf8) (t.map toUtf8) = compare s t := by
  induction s generalizing t with
  | nil => cases t <;> rfl
  | cons a s ih =>
    cases t with
    | nil => rfl
    | cons b t =>
      rw [List.map_cons, List.map_cons, List.compare_cons_cons, List.compare_cons_cons, ih,
        compare_toUtf8]

/-! ## Lengths -/

/-- A text takes as many bytes as spell it. -/
lemma length_toUtf8 (t : Text) : (toUtf8 t).length = byteLength t := by
  induction t with
  | nil => rfl
  | cons c t ih =>
    rw [toUtf8_cons, List.length_append, String.length_utf8EncodeChar, ih]
    rfl

/-- Two texts together take as many bytes as both of them. -/
lemma byteLength_append (s t : Text) : byteLength (s ++ t) = byteLength s + byteLength t := by
  rw [← length_toUtf8, ← length_toUtf8, ← length_toUtf8, toUtf8, List.flatMap_append,
    List.length_append]
  rfl

/-- The bytes of a character that is repeated. -/
lemma byteLength_replicate (n : ℕ) (c : Char) :
    byteLength (List.replicate n c) = n * c.utf8Size := by
  induction n with
  | zero => rw [Nat.zero_mul, List.replicate_zero, byteLength, List.foldr_nil]
  | succ n ih =>
    have first : byteLength (c :: List.replicate n c) =
        c.utf8Size + byteLength (List.replicate n c) := rfl
    rw [List.replicate_succ, first, ih, Nat.succ_mul, Nat.add_comm]

/-- A text that is not empty takes some bytes. -/
lemma byteLength_pos {t : Text} (h : t ≠ []) : 0 < byteLength t := by
  obtain ⟨c, rest, rfl⟩ := List.exists_cons_of_ne_nil h
  have first := Char.utf8Size_pos c
  rw [byteLength, List.foldr_cons]
  omega

end Backlog.Text
