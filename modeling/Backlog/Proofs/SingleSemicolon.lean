import Backlog.Proofs.FullDatePlaces
import Backlog.Proofs.WrittenRemark

set_option relaxedAutoImplicit false
set_option autoImplicit false

/-!
# Remarks with a single semicolon

Where a free text has only one semicolon, the user stands before it and there is no date field. What
the comment is depends on the text before the semicolon. After a full date it is the rest, and else
the whole free text again.

## Main results

* `Backlog.Fields.comment_eq_iff_of_one` — the comment is the rest only after a full date.
* `Backlog.Todo.ofRemark_of_single_semicolon` — the todo of a remark with one semicolon.
-/

namespace Backlog

open Text

namespace Fields

variable {before after : Text}

/-- **The comment is what follows the semicolon** if and only if a full date stands before it. The
whole free text is another comment, since it has a semicolon. -/
lemma comment_eq_iff_of_one (hbefore : ';' ∉ before) (hafter : ';' ∉ after) :
    (ofFreeText (before ++ ';' :: after)).comment = trim after ↔ EndsInFullDate before := by
  rw [ofFreeText_of_one hbefore hafter, ← endsInFullDate_iff]
  constructor
  · intro same
    by_contra undated
    simp only [if_neg undated] at same
    have inside : ';' ∈ trim (before ++ ';' :: after) := by
      rw [← List.count_pos_iff, count_trim rfl, List.count_pos_iff]
      exact List.mem_append_right before List.mem_cons_self
    rw [same] at inside
    exact hafter (mem_of_mem_trim inside)
  · intro dated
    simp only [if_pos dated]

end Fields

namespace Todo

/-- **The todo of a remark with one semicolon** in its free text. The user is what stands before the
semicolon, and there is no date. The comment is what stands behind it if and only if the last ten
characters before it, blanks at their end apart, are digits with dashes in the fifth and the eighth
place; in all other cases it is the whole free text. The test that divides the fields and the last
ten bytes alone both say the same. In particular the characters are no date if there are fewer than
ten bytes, or if the cut before the last ten of them falls inside a character. -/
theorem ofRemark_of_single_semicolon (file : Text) {remark before after : Text}
    (single : (freeTextOf remark).count ';' = 1)
    (cut : freeTextOf remark = before ++ ';' :: after) :
    let todo := ofRemark file remark
    (todo.comment = trim after ↔ EndsInDateCharacters (trimEnd before)) ∧
      (¬ EndsInDateCharacters (trimEnd before) → todo.comment = trim (freeTextOf remark)) ∧
      todo.user = trim before ∧ todo.date = [] ∧
      (endsInFullDate before = true ↔ EndsInDateCharacters (trimEnd before)) ∧
      (EndsInDateBytes (trimEnd before) ↔ EndsInDateCharacters (trimEnd before)) ∧
      (byteLength (trimEnd before) < 10 ∨ CutsCharacter 10 (trimEnd before) →
        ¬ EndsInDateCharacters (trimEnd before)) := by
  intro todo
  rw [cut, List.count_append, List.count_cons_self] at single
  have hbefore : ';' ∉ before := List.count_eq_zero.mp (by omega)
  have hafter : ';' ∉ after := List.count_eq_zero.mp (by omega)
  have fields : todo.fields = Fields.ofFreeText (before ++ ';' :: after) := by
    rw [fields_ofRemark, fieldsOf_eq, cut]
  have parts : todo.fields = ⟨trim before, [], trim (if endsInFullDate before then after
      else before ++ ';' :: after)⟩ := fields.trans (Fields.ofFreeText_of_one hbefore hafter)
  have dated : endsInFullDate before = true ↔ EndsInDateCharacters (trimEnd before) :=
    endsInFullDate_iff.trans endsInFullDate_iff_endsInDateCharacters
  refine ⟨?_, fun undated => ?_, congrArg Fields.user parts, congrArg Fields.date parts, dated,
    endsInDateBytes_iff, not_endsInDateCharacters_of_cut⟩
  · rw [← endsInFullDate_iff_endsInDateCharacters,
      ← Fields.comment_eq_iff_of_one hbefore hafter, ← fields]
    rfl
  · rw [← dated] at undated
    rw [if_neg undated] at parts
    rw [cut]
    exact congrArg Fields.comment parts

/-- The first date is one by its form, not in the calendar, and a wide blank stands behind it. The
year of the second one has only three digits, and the byte before them is the second one of `é`. -/
theorem ofRemark_of_single_semicolon_cut :
    let dated := "// todo:é2021-13-99\u3000;go\r\n".toList
    let halved := "// TODO aé021-06-31 ; go".toList
    ((freeTextOf dated).count ';' = 1 ∧ (ofRemark [] dated).comment = "go".toList ∧
        (ofRemark [] dated).user = "é2021-13-99".toList) ∧
      (freeTextOf halved).count ';' = 1 ∧ CutsCharacter 10 (trimEnd "aé021-06-31 ".toList) ∧
        (ofRemark [] halved).comment = "aé021-06-31 ; go".toList := by
  intro dated halved
  have datedText : freeTextOf dated = "é2021-13-99\u3000".toList ++ ';' :: "go".toList := by
    decide +kernel
  have halvedText : freeTextOf halved = "aé021-06-31 ".toList ++ ';' :: " go".toList := by
    decide +kernel
  have datedOne : (freeTextOf dated).count ';' = 1 := by decide +kernel
  have halvedOne : (freeTextOf halved).count ';' = 1 := by decide +kernel
  have split : CutsCharacter 10 (trimEnd "aé021-06-31 ".toList) :=
    ⟨"a".toList, 'é', "021-06-31".toList, by decide +kernel, by decide +kernel, by decide +kernel⟩
  obtain ⟨rest, -, user, -⟩ := ofRemark_of_single_semicolon [] datedOne datedText
  obtain ⟨-, whole, -, -, -, -, undated⟩ := ofRemark_of_single_semicolon [] halvedOne halvedText
  exact ⟨⟨datedOne, (rest.mpr (by decide +kernel)).trans (by decide +kernel),
      user.trans (by decide +kernel)⟩,
    halvedOne, split, (whole (undated (.inr split))).trans (by decide +kernel)⟩

end Todo

end Backlog
