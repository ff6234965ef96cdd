import Backlog.Proofs.LineCut
import Backlog.Session.Transcript
import Mathlib.Data.List.Forall2

set_option relaxedAutoImplicit false
set_option autoImplicit false

/-!
# The lines of an input, described

An input comes as bytes. It is cut into lines behind its line feeds before anything is known about
characters, so a line may fail to be a text while the lines before it are read.

## Main definitions

* `Backlog.Session.IsLineOfPiece` — what a piece of an input holds, apart from its terminator.
* `Backlog.Session.AreInputLines` — the lines of an input.

## Main results

* `Backlog.Text.ofUtf8?_eq_some_iff` — bytes are read as the text that they spell.
* `Backlog.Session.areInputLines_iff` — an input has one list of lines, which `inputLines` computes.
* `Backlog.Session.inputLines_append` — lines that have ended stay whatever follows them.
-/

namespace Backlog

open Text

/-! ## Texts as bytes -/

/-- The library's encoding of a text has the bytes that spell the text. -/
lemma Text.utf8Encode_eq_iff {bytes : List UInt8} {t : Text} :
    t.utf8Encode = ⟨bytes.toArray⟩ ↔ bytes = toUtf8 t := by
  constructor
  · intro h
    have data := congrArg (fun encoded : ByteArray => encoded.data.toList) h
    simp only [List.utf8Encode, List.data_toByteArray, List.toList_toArray] at data
    exact data.symm
  · rintro rfl
    apply ByteArray.ext
    rw [List.utf8Encode, List.data_toByteArray, toUtf8]

/-- **Bytes are read as the text that they spell**, and no other bytes are read. -/
lemma Text.ofUtf8?_eq_some_iff {bytes : List UInt8} {t : Text} :
    ofUtf8? bytes = some t ↔ bytes = toUtf8 t := by
  rw [← utf8Encode_eq_iff, ofUtf8?, Option.map_eq_some_iff, String.fromUTF8?]
  constructor
  · rintro ⟨s, h, rfl⟩
    split at h
    · cases h
      rw [← String.toByteArray_ofList, String.ofList_toList]
      rfl
    · cases h
  · intro h
    have valid : ByteArray.IsValidUTF8 ⟨bytes.toArray⟩ := ⟨t, h.symm⟩
    refine ⟨String.ofList t, ?_, String.toList_ofList⟩
    rw [dif_pos valid, Option.some.injEq, ← String.toByteArray_inj, String.toByteArray_ofList, h]
    rfl

/-- The bytes of a text are read as this text. -/
@[simp] lemma Text.ofUtf8?_toUtf8 (t : Text) : ofUtf8? (toUtf8 t) = some t :=
  ofUtf8?_eq_some_iff.mpr rfl

/-- Bytes that spell no text are not read. -/
lemma Text.ofUtf8?_eq_none_iff {bytes : List UInt8} :
    ofUtf8? bytes = none ↔ ∀ t, bytes ≠ toUtf8 t := by
  simp only [Option.eq_none_iff_forall_ne_some, ne_eq, ofUtf8?_eq_some_iff]

namespace Session

variable {lines : List (List UInt8)} {input shared line piece : List UInt8}

/-! ## Terminators -/

/-- The line that a piece of an input holds. With a line feed at the end of the piece, that and one
carriage return before it are no part of the line. Without one, the piece is the line, also if it
ends in a carriage return. -/
inductive IsLineOfPiece : List UInt8 → List UInt8 → Prop
  | unended {piece : List UInt8} : piece.getLast? ≠ some 0x0A → IsLineOfPiece piece piece
  | ended {line body : List UInt8} : DropsFinal 0x0D body line → IsLineOfPiece line (body ++ [0x0A])

/-- A piece holds one line. -/
lemma isLineOfPiece_iff : IsLineOfPiece line piece ↔ line = withoutTerminator piece := by
  constructor
  · rintro (last | drops)
    · rw [withoutTerminator, if_neg last]
    · rw [withoutTerminator, if_pos List.getLast?_concat, List.dropLast_concat]
      exact dropsFinal_iff.mp drops
  · rintro rfl
    by_cases last : piece.getLast? = some 0x0A
    · obtain ⟨body, rfl⟩ := List.getLast?_eq_some_iff.mp last
      rw [withoutTerminator, if_pos last, List.dropLast_concat]
      exact .ended (dropsFinal_iff.mpr rfl)
    · rw [withoutTerminator, if_neg last]
      exact .unended last

/-! ## Inputs -/

/-- The lines of the pieces into which the input is cut behind its line feeds, in order. -/
def AreInputLines (lines : List (List UInt8)) (input : List UInt8) : Prop :=
  ∃ pieces, IsCutAfter 0x0A input pieces ∧ List.Forall₂ IsLineOfPiece lines pieces

/-- **An input has one list of lines**, the one that `inputLines` computes. -/
theorem areInputLines_iff : AreInputLines lines input ↔ lines = inputLines input := by
  have held (pieces : List (List UInt8)) :
      List.Forall₂ IsLineOfPiece lines pieces ↔ lines = pieces.map withoutTerminator := by
    rw [← List.forall₂_eq_eq_eq, List.forall₂_map_right_iff]
    simp only [← isLineOfPiece_iff]
  simp only [AreInputLines, isCutAfter_iff, exists_eq_left, held, inputLines]

/-- **Lines that have ended stay**, whatever follows them. -/
lemma inputLines_append (h : shared.getLast? = some 0x0A) (rest : List UInt8) :
    inputLines (shared ++ rest) = inputLines shared ++ inputLines rest := by
  have cut := (isCutAfter_cutAfter 0x0A shared).append (.inr h) (isCutAfter_cutAfter 0x0A rest)
  rw [inputLines, ← isCutAfter_iff.mp cut, List.map_append, inputLines, inputLines]

end Session

end Backlog
