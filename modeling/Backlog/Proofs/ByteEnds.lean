import Backlog.Proofs.TextLines
import Mathlib.Data.List.Induction

set_option relaxedAutoImplicit false
set_option autoImplicit false

/-!
# The ends of a text by their bytes

A text has a beginning that takes a given number of bytes if some character of it ends with the last
of them, and then only one. The same holds of its end. There is none if the text is shorter or if a
character lies on both sides of the cut. Where every character takes one byte, the bytes are counted
by the characters, and bytes that can only be such characters are these characters in any text.

## Main definitions

* `Backlog.Text.CutsCharacter` — a cut so many bytes before the end falls inside a character.

## Main results

* `Backlog.Text.firstBytes?_eq_some_iff`, `Backlog.Text.lastBytes?_eq_some_iff` — the beginning and
  the end of a text that take a number of bytes.
* `Backlog.Text.lastBytes?_eq_none_iff` — the texts that have no such end.
* `Backlog.Text.byteLength_of_forall`, `Backlog.Text.toUtf8_of_forall` — the bytes of a text of small
  characters.
* `Backlog.Text.exists_isSuffix_of_low` — small bytes at the end of a text.
-/

namespace Backlog.Text

variable {n : ℕ} {s t : Text}

/-- The bytes of a text are those of its first character and those of the rest. -/
lemma byteLength_cons (c : Char) (t : Text) : byteLength (c :: t) = c.utf8Size + byteLength t := rfl

/-- A text backwards takes as many bytes. -/
lemma byteLength_reverse (t : Text) : byteLength t.reverse = byteLength t := by
  induction t with
  | nil => rfl
  | cons c t ih =>
    rw [List.reverse_cons, byteLength_append, ih, Nat.add_comm]
    rfl

/-- **The beginning of a text that takes some number of bytes**, if there is one.

**Proof sketch.** Induction as in the definition. The first character belongs to the beginning, and
the rest of the beginning takes the bytes that it leaves. -/
lemma firstBytes?_eq_some_iff : firstBytes? n t = some s ↔ s <+: t ∧ byteLength s = n := by
  fun_induction firstBytes? n t generalizing s with
  | case1 t =>
    rw [Option.some.injEq]
    constructor
    · rintro rfl
      exact ⟨List.nil_prefix, rfl⟩
    · rintro ⟨-, none⟩
      by_contra nonempty
      exact absurd (byteLength_pos (Ne.symm nonempty)) (by omega)
  | case2 n =>
    rw [List.prefix_nil]
    refine iff_of_false nofun ?_
    rintro ⟨rfl, bytes⟩
    cases bytes
  | case3 n c t fits ih =>
    simp only [Option.map_eq_some_iff, ih]
    constructor
    · rintro ⟨s, ⟨first, bytes⟩, rfl⟩
      exact ⟨List.prefix_cons_inj c |>.mpr first, by rw [byteLength_cons]; omega⟩
    · rintro ⟨first, bytes⟩
      cases s with
      | nil => cases bytes
      | cons d s =>
        obtain ⟨rfl, rest⟩ := List.cons_prefix_cons.mp first
        rw [byteLength_cons] at bytes
        exact ⟨s, ⟨rest, by omega⟩, rfl⟩
  | case4 n c t tooLong =>
    refine iff_of_false nofun ?_
    rintro ⟨first, bytes⟩
    cases s with
    | nil => cases bytes
    | cons d s =>
      obtain ⟨rfl, -⟩ := List.cons_prefix_cons.mp first
      rw [byteLength_cons] at bytes
      omega

/-- **The end of a text that takes some number of bytes**, if there is one. -/
lemma lastBytes?_eq_some_iff : lastBytes? n t = some s ↔ s <:+ t ∧ byteLength s = n := by
  rw [lastBytes?, Option.map_eq_some_iff, ← List.reverse_prefix, ← byteLength_reverse s]
  constructor
  · rintro ⟨first, h, rfl⟩
    rwa [List.reverse_reverse, ← firstBytes?_eq_some_iff]
  · intro h
    exact ⟨s.reverse, firstBytes?_eq_some_iff.mpr h, List.reverse_reverse s⟩

/-! ## Ends that there are not -/

/-- The cut `n` bytes before the end of the text falls inside a character: some character begins
before the last `n` bytes and ends in them. -/
def CutsCharacter (n : ℕ) (t : Text) : Prop :=
  ∃ before c after, t = before ++ c :: after ∧ byteLength after < n ∧ n < byteLength (c :: after)

/-- A text has no beginning of some number of bytes if it is shorter, or if a character begins in
these bytes and ends behind them.

**Proof sketch.** Induction as in the definition. The character that is cut is the first one where
that takes too many bytes, and else it is the one that is cut in the rest. -/
lemma firstBytes?_eq_none_iff : firstBytes? n t = none ↔ byteLength t < n ∨
    ∃ before c after, t = before ++ c :: after ∧ byteLength before < n ∧
      n < byteLength (before ++ [c]) := by
  fun_induction firstBytes? n t with
  | case1 t =>
    refine iff_of_false nofun ?_
    rintro (short | ⟨before, c, after, -, short, -⟩) <;> exact Nat.not_lt_zero _ short
  | case2 n => exact iff_of_true rfl (.inl n.succ_pos)
  | case3 n c t fits ih =>
    rw [Option.map_eq_none_iff, ih, byteLength_cons]
    constructor
    · rintro (short | ⟨before, d, after, rfl, begins, ends⟩)
      · exact .inl (by omega)
      · refine .inr ⟨c :: before, d, after, rfl, ?_, ?_⟩
        · rw [byteLength_cons]
          omega
        · rw [List.cons_append, byteLength_cons]
          omega
    · rintro (short | ⟨before, d, after, same, begins, ends⟩)
      · exact .inl (by omega)
      · cases before with
        | nil =>
          obtain ⟨rfl, rfl⟩ := List.cons.inj same
          have tooLong : n + 1 < c.utf8Size := ends
          omega
        | cons b before =>
          obtain ⟨rfl, rfl⟩ := List.cons.inj same
          rw [List.cons_append, byteLength_cons] at ends
          rw [byteLength_cons] at begins
          exact .inr ⟨before, d, after, rfl, by omega, by omega⟩
  | case4 n c t tooLong =>
    refine iff_of_true rfl (.inr ⟨[], c, t, rfl, n.succ_pos, ?_⟩)
    have only : byteLength [c] = c.utf8Size := rfl
    rw [List.nil_append, only]
    omega

/-- **A text has no end of some number of bytes** if it is shorter or the cut falls inside a
character. -/
lemma lastBytes?_eq_none_iff : lastBytes? n t = none ↔ byteLength t < n ∨ CutsCharacter n t := by
  rw [lastBytes?, Option.map_eq_none_iff, firstBytes?_eq_none_iff, byteLength_reverse]
  refine or_congr_right ⟨?_, ?_⟩
  · rintro ⟨after, c, before, same, begins, ends⟩
    refine ⟨before.reverse, c, after.reverse, ?_, ?_, ?_⟩
    · rw [List.reverse_eq_iff.mp same]
      simp
    · rwa [byteLength_reverse]
    · rwa [← byteLength_reverse, List.reverse_cons, List.reverse_reverse]
  · rintro ⟨before, c, after, rfl, begins, ends⟩
    refine ⟨after.reverse, c, before.reverse, by simp, ?_, ?_⟩
    · rwa [byteLength_reverse]
    · rwa [← List.reverse_cons, byteLength_reverse]

/-! ## Small characters -/

/-- A text of characters with one byte each takes as many bytes as it has characters. -/
lemma byteLength_of_forall (h : ∀ c ∈ t, c.utf8Size = 1) : byteLength t = t.length := by
  induction t with
  | nil => rfl
  | cons c t ih =>
    rw [List.forall_mem_cons] at h
    rw [byteLength_cons, h.1, ih h.2, List.length_cons, Nat.add_comm]

/-- The bytes of such a text are its characters. -/
lemma toUtf8_of_forall (h : ∀ c ∈ t, c.utf8Size = 1) : toUtf8 t = t.map Char.toUInt8 := by
  induction t with
  | nil => rfl
  | cons c t ih =>
    rw [List.forall_mem_cons] at h
    rw [toUtf8_cons, String.utf8EncodeChar_eq_singleton h.1, ih h.2, Char.toUInt8_val,
      List.singleton_append, List.map_cons]

/-- **Small bytes at the end of a text** are small characters there.

**Proof sketch.** Induction on the bytes, from the last one on. It is a byte of the last character of
the text, and the only one since it is small. -/
lemma exists_isSuffix_of_low {bytes : List UInt8} (low : ∀ x ∈ bytes, x < 0x80)
    (last : bytes <:+ toUtf8 t) :
    ∃ s, s <:+ t ∧ (∀ c ∈ s, c.utf8Size = 1) ∧ s.map Char.toUInt8 = bytes := by
  induction bytes using List.reverseRecOn generalizing t with
  | nil => exact ⟨[], List.nil_suffix, nofun, rfl⟩
  | append_singleton bytes x ih =>
    rw [List.forall_mem_append, List.forall_mem_singleton] at low
    rcases List.eq_nil_or_concat t with rfl | ⟨t, c, rfl⟩
    · exact absurd (List.suffix_nil.mp last) (List.concat_ne_nil x bytes)
    · rw [List.concat_eq_append, toUtf8_append, toUtf8_singleton] at last
      have mem : x ∈ String.utf8EncodeChar c := by
        obtain ⟨first, y, parts⟩ :=
          (List.eq_nil_or_concat _).resolve_left (String.utf8EncodeChar_ne_nil (c := c))
        rw [List.concat_eq_append] at parts
        rw [parts, ← List.append_assoc, List.suffix_append_inj_of_length_eq (by rfl),
          List.singleton_inj] at last
        rw [parts, last.2]
        exact List.mem_concat_self
      have one : c.utf8Size = 1 := utf8Size_eq_one_of_mem low.2 mem
      rw [String.utf8EncodeChar_eq_singleton one, List.suffix_append_inj_of_length_eq (by rfl),
        List.singleton_inj] at last
      obtain ⟨s, hs, small, same⟩ := ih low.1 last.1
      refine ⟨s ++ [c], ?_, ?_, ?_⟩
      · rw [List.concat_eq_append]
        exact (List.suffix_append_inj_of_length_eq rfl).mpr ⟨hs, rfl⟩
      · rw [List.forall_mem_append, List.forall_mem_singleton]
        exact ⟨small, one⟩
      · rw [List.map_append, same, last.2]
        rfl

end Backlog.Text
