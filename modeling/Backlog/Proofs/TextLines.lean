import Backlog.Proofs.ByteOrder
import Backlog.Proofs.InputLines

set_option relaxedAutoImplicit false
set_option autoImplicit false

/-!
# The lines of an input that is a text

An input is cut into lines as bytes. Where it spells a text, it could as well be read first and cut
then: a character that takes one byte shares it with no other character, so line feeds and carriage
returns are found in the bytes where they stand in the text.

## Main definitions

* `Backlog.Text.held` — a line of a text without its terminator, as a session sees it.

## Main results

* `Backlog.Text.utf8Size_eq_one_of_mem` — a byte below `0x80` stands for a character of its own.
* `Backlog.Text.mem_toUtf8_iff` — a byte that spells a character stands for that character only.
* `Backlog.Text.isCutAfter_toUtf8` — a cut of a text is a cut of its bytes.
* `Backlog.Session.inputLines_toUtf8` — the lines of a text, cut as bytes, are its lines.
-/

namespace Backlog

open Text

namespace Text

variable {a c : Char} {x : UInt8} {s t : Text}

/-! ## Characters of one byte -/

/-- The bytes of two texts put together. -/
lemma toUtf8_append (s t : Text) : toUtf8 (s ++ t) = toUtf8 s ++ toUtf8 t := List.flatMap_append

/-- The bytes of a single character. -/
lemma toUtf8_singleton (c : Char) : toUtf8 [c] = String.utf8EncodeChar c :=
  List.flatMap_singleton _ c

/-- A byte below `0x80` is the only byte of a character. -/
lemma utf8Size_eq_one_of_mem (low : x < 0x80) (mem : x ∈ String.utf8EncodeChar c) :
    c.utf8Size = 1 := by
  replace low : x.toNat < 0x80 := UInt8.lt_iff_toNat_lt.mp low
  rw [← String.length_utf8EncodeChar]
  simp only [String.utf8EncodeChar] at mem ⊢
  split_ifs at mem ⊢
  · rfl
  -- all bytes of a longer spelling have the highest bit
  all_goals
    simp only [List.mem_cons, List.not_mem_nil, or_false, ← UInt8.toNat_inj, UInt8.toNat_ofNat']
      at mem
    omega

/-- A character that takes one byte is below `0x80`. -/
lemma toNat_le_of_utf8Size (one : c.utf8Size = 1) : c.toNat ≤ 127 :=
  UInt32.le_iff_toNat_le.mp (Char.utf8Size_eq_one_iff.mp one)

/-- The byte of a character that takes only one is its code point. -/
lemma toNat_toUInt8 (one : c.utf8Size = 1) : c.toUInt8.toNat = c.toNat := by
  have small : c.toNat ≤ 127 := toNat_le_of_utf8Size one
  have wrapped : c.toUInt8.toNat = c.toNat % 256 := rfl
  omega

/-- A character that takes one byte shares it with no other character.

**Proof sketch.** The byte of such a character is its code point, which is below `0x80`. A character
that has the byte too takes no other, so the byte is also its code point. -/
lemma mem_utf8EncodeChar_iff (spelled : String.utf8EncodeChar a = [x]) :
    x ∈ String.utf8EncodeChar c ↔ c = a := by
  constructor
  · intro mem
    have one : a.utf8Size = 1 := by
      rw [← String.length_utf8EncodeChar, spelled, List.length_singleton]
    rw [String.utf8EncodeChar_eq_singleton one, Char.toUInt8_val, List.singleton_inj] at spelled
    subst spelled
    have low : a.toUInt8 < 0x80 := by
      rw [UInt8.lt_iff_toNat_lt, toNat_toUInt8 one]
      exact Nat.lt_succ_of_le (toNat_le_of_utf8Size one)
    have other : c.utf8Size = 1 := utf8Size_eq_one_of_mem low mem
    rw [String.utf8EncodeChar_eq_singleton other, Char.toUInt8_val, List.mem_singleton] at mem
    rw [← Char.toNat_inj, ← toNat_toUInt8 other, ← toNat_toUInt8 one, mem]
  · rintro rfl
    rw [spelled]
    exact List.mem_singleton_self x

/-- **A byte that spells a character stands for that character only**, also in a text. -/
lemma mem_toUtf8_iff (spelled : String.utf8EncodeChar a = [x]) : x ∈ toUtf8 t ↔ a ∈ t := by
  simp only [toUtf8, List.mem_flatMap, mem_utf8EncodeChar_iff spelled, exists_eq_right]

/-- The last byte of a text spells the character if the text ends in it. -/
lemma getLast?_toUtf8_iff (spelled : String.utf8EncodeChar a = [x]) :
    (toUtf8 t).getLast? = some x ↔ t.getLast? = some a := by
  rcases List.eq_nil_or_concat t with rfl | ⟨t, c, rfl⟩
  · simp [toUtf8]
  · rw [List.concat_eq_append, toUtf8_append, toUtf8_singleton,
      List.getLast?_append_of_ne_nil _ String.utf8EncodeChar_ne_nil, List.getLast?_concat,
      Option.some.injEq, ← mem_utf8EncodeChar_iff spelled]
    constructor
    · exact List.mem_of_getLast?
    · intro mem
      rw [mem_utf8EncodeChar_iff spelled] at mem
      rw [mem, spelled, List.getLast?_singleton]

/-! ## Cuts -/

/-- **A cut of a text is a cut of its bytes.** -/
lemma isCutAfter_toUtf8 (spelled : String.utf8EncodeChar a = [x]) {pieces : List Text}
    (cut : IsCutAfter a t pieces) : IsCutAfter x (toUtf8 t) (pieces.map toUtf8) := by
  induction cut with
  | nil => exact .nil
  | @rest t nonempty absent =>
    obtain ⟨c, t, rfl⟩ := List.exists_cons_of_ne_nil nonempty
    refine .rest ?_ (mt (mem_toUtf8_iff spelled).mp absent)
    rw [toUtf8_cons]
    exact List.append_ne_nil_of_left_ne_nil String.utf8EncodeChar_ne_nil _
  | piece body absent _ ih =>
    rw [toUtf8_append, toUtf8_cons, spelled, List.map_cons, toUtf8_append, toUtf8_singleton,
      spelled]
    exact .piece (toUtf8 body) (mt (mem_toUtf8_iff spelled).mp absent) ih

/-- The bytes of a text lose the last character as the text does. -/
lemma withoutLast_toUtf8 (spelled : String.utf8EncodeChar a = [x]) (t : Text) :
    withoutLast x (toUtf8 t) = toUtf8 (withoutLast a t) := by
  by_cases last : t.getLast? = some a
  · obtain ⟨t, rfl⟩ := List.getLast?_eq_some_iff.mp last
    rw [toUtf8_append, toUtf8_singleton, spelled, withoutLast_append_singleton,
      withoutLast_append_singleton]
  · rw [withoutLast_of_getLast?_ne last,
      withoutLast_of_getLast?_ne (mt (getLast?_toUtf8_iff spelled).mp last)]

/-! ## Lines -/

/-- A line without its terminator, a line feed with or without one carriage return before it. A
carriage return at the end of a line that has not ended belongs to the line. -/
def held (line : Text) : Text :=
  if line.getLast? = some '\n' then withoutLast '\r' line.dropLast else line

/-- A line that has ended holds what stands before the terminator. -/
lemma held_append_lineFeed (body : Text) : held (body ++ ['\n']) = withoutLast '\r' body := by
  rw [held, if_pos List.getLast?_concat, List.dropLast_concat]

end Text

namespace Session

/-- A line of an input holds the bytes of what it holds as a text. -/
lemma withoutTerminator_toUtf8 (line : Text) :
    withoutTerminator (toUtf8 line) = toUtf8 (held line) := by
  have lineFeed : String.utf8EncodeChar '\n' = [0x0A] := rfl
  by_cases last : line.getLast? = some '\n'
  · obtain ⟨body, rfl⟩ := List.getLast?_eq_some_iff.mp last
    have bytes : toUtf8 (body ++ ['\n']) = toUtf8 body ++ [0x0A] := toUtf8_append body ['\n']
    rw [held_append_lineFeed, bytes, withoutTerminator, if_pos List.getLast?_concat,
      List.dropLast_concat]
    exact withoutLast_toUtf8 rfl body
  · rw [withoutTerminator, if_neg (mt (getLast?_toUtf8_iff lineFeed).mp last), held, if_neg last]

/-- **The lines of a text, cut as bytes, are the bytes of its lines.** -/
theorem inputLines_toUtf8 (t : Text) :
    inputLines (toUtf8 t) = ((lines t).map held).map toUtf8 := by
  have cut : IsCutAfter 0x0A (toUtf8 t) ((lines t).map toUtf8) :=
    isCutAfter_toUtf8 rfl (isCutAfter_cutAfter '\n' t)
  rw [inputLines, ← isCutAfter_iff.mp cut, List.map_map, List.map_map]
  exact List.map_congr_left fun line _ => withoutTerminator_toUtf8 line

/-- All lines of a text are read. -/
lemma map_ofUtf8?_inputLines (t : Text) :
    (inputLines (toUtf8 t)).map ofUtf8? = ((lines t).map held).map some := by
  rw [inputLines_toUtf8, List.map_map]
  exact List.map_congr_left fun line _ => ofUtf8?_toUtf8 line

end Session

end Backlog
