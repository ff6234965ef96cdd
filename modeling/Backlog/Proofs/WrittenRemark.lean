import Backlog.Proofs.FieldDivision
import Backlog.Proofs.HeadGrammar
import Backlog.Proofs.LineCut
import Backlog.Todo.Written

set_option relaxedAutoImplicit false
set_option autoImplicit false

/-!
# Remarks that are written down

A head followed by fields with both semicolons is a remark from which the same fields are read,
whatever the head and the spaces look like and however the line ends. So a todo that is written
back in its full form is the same todo, and its full form stays.

## Main definitions

* `Backlog.Todo.freeTextOf` — what is divided into the fields of a remark.
* `Backlog.Todo.fields` — the fields of a todo.
* `Backlog.Remark.Head.full` — the head of the full form.

## Main results

* `Backlog.Todo.fieldsOf_remark` — the fields of a remark that is written down.
* `Backlog.Todo.isImportant_ofRemark_iff` — a todo is important if its fields say so.
* `Backlog.Todo.ofRemark_written` — the full form of a todo is a fixed point.
-/

namespace Backlog

open Text

/-! ## Reading what was written -/

namespace Fields

/-- What is written down begins as the user does, or with the first semicolon. -/
lemma head?_laidOut (fields : Fields) (m n : ℕ) :
    (fields.laidOut m n).head? = fields.user.head?.or (some ';') := by
  rw [laidOut, List.head?_append, List.head?_cons]

/-- A separator goes no further than to the fields, if the user begins with a colon only behind
another one. -/
lemma meets_laidOut {fields : Fields} {head : Remark.Head} (h : fields.IsNormal)
    (colon : ':' ∉ head.separator → fields.user.head? ≠ some ':') (m n : ℕ) :
    head.Meets (fields.laidOut m n) := by
  simp only [Remark.Head.Meets, head?_laidOut, ne_eq, Option.or_eq_some_iff, not_or, not_and]
  exact ⟨⟨h.user.head?_ne rfl, fun _ => by decide⟩, fun none => ⟨colon none, fun _ => by decide⟩⟩

end Fields

namespace Todo

/-- **The fields of a remark that is written down** are the fields that were written.

**Proof sketch.** The fields end in no line feed or carriage return, so the terminator is all that
is no content. The head goes as far as to the user, and both semicolons are found again. -/
theorem fieldsOf_remark {fields : Fields} {head : Remark.Head} (h : fields.IsNormal)
    (colon : ':' ∉ head.separator → fields.user.head? ≠ some ':') (m n : ℕ) {terminator : Text}
    (hterminator : IsTerminator terminator) :
    fieldsOf (head.text ++ fields.laidOut m n ++ terminator) = fields := by
  have last : (head.text ++ fields.laidOut m n).getLast? = (fields.laidOut m n).getLast? :=
    List.getLast?_append_of_ne_nil _ (by simp [Fields.laidOut])
  have hcontent : content (head.text ++ fields.laidOut m n ++ terminator) =
      head.text ++ fields.laidOut m n := by
    refine content_append_terminator ?_ ?_ hterminator
    · rw [last]
      exact Fields.getLast?_laidOut_ne h m n rfl (by decide)
    · rw [last]
      exact Fields.getLast?_laidOut_ne h m n rfl (by decide)
  rw [fieldsOf, hcontent, Remark.freeText?_of_meets (Fields.meets_laidOut h colon m n),
    Option.getD_some, Fields.ofFreeText_laidOut h]

/-! ## Importance -/

/-- What is divided into the fields of a remark: its free text, or the whole line without the blanks
at its ends if there is no head. -/
def freeTextOf (remark : Text) : Text :=
  (Remark.freeText? (content remark)).getD (trim (content remark))

/-- The fields of a remark are those of this text. -/
lemma fieldsOf_eq (remark : Text) : fieldsOf remark = Fields.ofFreeText (freeTextOf remark) := rfl

/-- This text has all exclamation marks of the remark: there are none in a head, nor in what ends a
line. -/
lemma count_freeTextOf (remark : Text) : (freeTextOf remark).count '!' = remark.count '!' := by
  rw [← count_content (by decide : '!' ≠ '\n') (by decide : '!' ≠ '\r') remark, freeTextOf]
  cases h : Remark.freeText? (content remark) with
  | none => exact count_trim rfl (content remark)
  | some free =>
    obtain ⟨head, same⟩ := Remark.exists_head_of_freeText? h
    have unmarked : '!' ∉ head.text := head.notMem_text (by decide)
    rw [same, List.count_append, List.count_eq_zero.mpr unmarked, Nat.zero_add, Option.getD_some]

/-- **A todo is important if its fields say so**: an exclamation mark of the remark is found in the
user, in the date or in the comment. -/
theorem isImportant_ofRemark_iff (file remark : Text) :
    (ofRemark file remark).isImportant ↔
      '!' ∈ (fieldsOf remark).user ∨ '!' ∈ (fieldsOf remark).date ∨
        '!' ∈ (fieldsOf remark).comment := by
  rw [fieldsOf_eq, ← Fields.mem_ofFreeText_iff rfl (by decide), ← List.count_pos_iff,
    count_freeTextOf, isImportant, decide_eq_true_eq]
  rfl

/-! ## The full form -/

/-- The fields of a todo. -/
def fields (todo : Todo) : Fields := ⟨todo.user, todo.date, todo.comment⟩

/-- The fields of a todo are those of its remark. -/
lemma fields_ofRemark (file remark : Text) : (ofRemark file remark).fields = fieldsOf remark := rfl

end Todo

/-- The head of the full form. -/
def Remark.Head.full : Remark.Head where
  spaced := true
  word := Remark.marker
  separator := [':', ' ']
  isSpelling := Remark.isSpelling_iff.mpr rfl
  isSeparator := .colon 0 1

namespace Todo

/-- The full form is a remark with one space behind each semicolon. -/
lemma written_eq (todo : Todo) :
    todo.written = Remark.Head.full.text ++ todo.fields.laidOut 1 1 := by
  have text : "// TODO: ".toList = Remark.Head.full.text := rfl
  have semicolon : "; ".toList = [';', ' '] := rfl
  unfold written fields Fields.laidOut
  rw [text, semicolon]
  simp

/-- The full form of a todo has the fields of the todo. -/
lemma fieldsOf_written (file remark : Text) :
    fieldsOf (ofRemark file remark).written = fieldsOf remark := by
  have normal : (fieldsOf remark).IsNormal := Fields.isNormal_ofFreeText _
  have colon : ':' ∈ Remark.Head.full.separator := by decide
  rw [written_eq, fields_ofRemark, ← List.append_nil (_ ++ _)]
  exact fieldsOf_remark normal (fun none => absurd colon none) 1 1 .missing

/-- Day and full form follow from the fields. -/
lemma eq_of_fields_eq {a b : Todo} (h : a.fields = b.fields) :
    a.user = b.user ∧ a.date = b.date ∧ a.comment = b.comment ∧ a.day? = b.day? ∧
      a.written = b.written := by
  have hdate : a.date = b.date := congrArg Fields.date h
  refine ⟨congrArg Fields.user h, hdate, congrArg Fields.comment h, ?_, ?_⟩
  · rw [day?, hdate, day?]
  · rw [written_eq, h, ← written_eq]

/-- **The full form is a fixed point**: the todo of the full form has the fields, the day, the file
and the importance of the todo that was written, and the same full form. -/
theorem ofRemark_written (file remark : Text) :
    let todo := ofRemark file remark
    let again := ofRemark file todo.written
    again.user = todo.user ∧ again.date = todo.date ∧ again.comment = todo.comment ∧
      again.day? = todo.day? ∧ again.file = todo.file ∧
      again.isImportant = todo.isImportant ∧ again.written = todo.written := by
  have same : (ofRemark file (ofRemark file remark).written).fields =
      (ofRemark file remark).fields := by
    rw [fields_ofRemark, fields_ofRemark, fieldsOf_written]
  obtain ⟨user, date, comment, day, written⟩ := eq_of_fields_eq same
  refine ⟨user, date, comment, day, rfl, ?_, written⟩
  rw [Bool.eq_iff_iff, isImportant_ofRemark_iff, isImportant_ofRemark_iff, fieldsOf_written]

end Todo

end Backlog
