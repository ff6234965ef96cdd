import Backlog.Proofs.FullDateEnd
import Backlog.Proofs.WrittenRemark

set_option relaxedAutoImplicit false
set_option autoImplicit false

/-!
# The exclamation marks of the fields

The importance of a todo is the number of exclamation marks in its remark. The fields account for
all of them. With two semicolons, or with one right behind a full date, each mark stands in one
field. Otherwise the comment is the whole free text and has all of the marks, and those of the user
are found in it again.

## Main definitions

* `Backlog.Fields.IsParted` — the fields have no part of the free text in common.

## Main results

* `Backlog.Fields.isParted_of_one_iff` — what a single semicolon does.
* `Backlog.Fields.count_ofFreeText` — where the characters of a free text are found.
* `Backlog.Todo.importance_ofRemark` — the importance of a todo by its fields.
-/

namespace Backlog

open Text

/-! ## The parts of a free text -/

namespace Fields

variable {free user tail : Text} {c : Char}

/-- The fields have no part of the free text in common: there are two semicolons or more, or only
one and a full date stands right before it, apart from blanks. -/
def IsParted (free : Text) : Prop :=
  2 ≤ free.count ';' ∨
    ∃ before after, free = before ++ ';' :: after ∧ ';' ∉ before ∧ ';' ∉ after ∧
      EndsInFullDate before

/-- Without semicolons the comment is all there is. -/
lemma not_isParted_of_none (h : ';' ∉ free) : ¬ IsParted free := by
  rintro (two | ⟨before, after, rfl, -⟩)
  · rw [List.count_eq_zero.mpr h] at two
    omega
  · exact h (by simp)

/-- **With one semicolon** it depends on what stands before it. -/
lemma isParted_of_one_iff (huser : ';' ∉ user) (htail : ';' ∉ tail) :
    IsParted (user ++ ';' :: tail) ↔ EndsInFullDate user := by
  constructor
  · rintro (two | ⟨before, after, same, hbefore, -, dated⟩)
    · rw [List.count_append, List.count_cons_self, List.count_eq_zero.mpr huser,
        List.count_eq_zero.mpr htail] at two
      omega
    · -- a text is cut at its first semicolon in one way
      have cut : cutAt? ';' (user ++ ';' :: tail) = some (user, tail) :=
        cutAt?_eq_some_iff.mpr ⟨rfl, huser⟩
      rw [same, cutAt?_eq_some_iff.mpr ⟨rfl, hbefore⟩] at cut
      cases cut
      exact dated
  · intro dated
    exact .inr ⟨user, tail, rfl, huser, htail, dated⟩

/-- With two semicolons there are three parts. -/
lemma isParted_of_two (user date comment : Text) :
    IsParted (user ++ ';' :: (date ++ ';' :: comment)) := by
  left
  rw [List.count_append, List.count_cons_self, List.count_append, List.count_cons_self]
  omega

/-- **Where the characters of a free text are found**, semicolons and blanks apart: each in one
field if the fields have no part in common, and all in the comment if they have. -/
lemma count_ofFreeText (blank : isBlank c = false) (semicolon : c ≠ ';') (free : Text) :
    (IsParted free → free.count c = (ofFreeText free).user.count c +
        (ofFreeText free).date.count c + (ofFreeText free).comment.count c) ∧
      (¬ IsParted free → free.count c = (ofFreeText free).comment.count c) := by
  have joined (s t : Text) : (s ++ ';' :: t).count c = s.count c + t.count c := by
    rw [List.count_append, List.count_cons_of_ne semicolon.symm]
  rcases semicolon_cases free with none | ⟨user, tail, rfl, huser, htail⟩ |
    ⟨user, date, comment, rfl, huser, hdate⟩
  · refine ⟨fun parted => absurd parted (not_isParted_of_none none), fun _ => ?_⟩
    rw [ofFreeText_of_none none, count_trim blank]
  · rw [isParted_of_one_iff huser htail, ← endsInFullDate_iff, ofFreeText_of_one huser htail]
    constructor
    · intro dated
      rw [if_pos dated, joined, count_trim blank, count_trim blank, List.count_nil, Nat.add_zero]
    · intro undated
      rw [if_neg undated, count_trim blank]
  · refine ⟨fun _ => ?_, fun whole => absurd (isParted_of_two user date comment) whole⟩
    rw [ofFreeText_of_two huser hdate, joined, joined, count_trim blank, count_trim blank,
      count_trim blank, Nat.add_assoc]

end Fields

/-! ## Importance -/

namespace Todo

/-- **Importance by the fields.** Let the text that is divided into the fields, the free text of a
remark or the trimmed line where there is no head, have two semicolons or more, or one behind a full
date. Then the importance of the todo is the number of exclamation marks in user, date and comment
together. In all other cases it is their number in the comment alone. So a todo is important if and
only if there is one in some field. -/
theorem importance_ofRemark (file remark : Text) :
    let todo := ofRemark file remark
    (Fields.IsParted (freeTextOf remark) →
        todo.importance = todo.user.count '!' + todo.date.count '!' + todo.comment.count '!') ∧
      (¬ Fields.IsParted (freeTextOf remark) → todo.importance = todo.comment.count '!') ∧
      (todo.isImportant = true ↔ '!' ∈ todo.user ∨ '!' ∈ todo.date ∨ '!' ∈ todo.comment) := by
  intro todo
  have counted : todo.importance = (freeTextOf remark).count '!' := (count_freeTextOf remark).symm
  obtain ⟨parted, whole⟩ := @Fields.count_ofFreeText '!' rfl (by decide) (freeTextOf remark)
  rw [← fieldsOf_eq] at parted whole
  exact ⟨fun h => counted.trans (parted h), fun h => counted.trans (whole h),
    isImportant_ofRemark_iff file remark⟩

/-- The only semicolon stands behind a full date in the first text, and behind a user in the second.
The mark of that user is not counted twice, although two fields have it. -/
theorem importance_ofRemark_single :
    let dated := ofRemark "a".toList "// TODO : now! 2021-06-31\u2003; go!!\r\n".toList
    let plain := ofRemark "a".toList "bob! ; fix".toList
    dated.importance = 1 + 0 + 2 ∧ dated.comment = "go!!".toList ∧
      plain.importance = 1 ∧ plain.user = "bob!".toList ∧ plain.comment = "bob! ; fix".toList := by
  intro dated plain
  have datedText : freeTextOf dated.remark =
      "now! 2021-06-31\u2003".toList ++ ';' :: " go!!".toList := by decide +kernel
  have plainText : freeTextOf plain.remark = "bob! ".toList ++ ';' :: " fix".toList := by
    decide +kernel
  have parted : Fields.IsParted (freeTextOf dated.remark) := by
    rw [datedText, Fields.isParted_of_one_iff (by decide +kernel) (by decide +kernel),
      ← endsInFullDate_iff]
    decide +kernel
  have whole : ¬ Fields.IsParted (freeTextOf plain.remark) := by
    rw [plainText, Fields.isParted_of_one_iff (by decide +kernel) (by decide +kernel),
      ← endsInFullDate_iff]
    decide +kernel
  refine ⟨((importance_ofRemark _ _).1 parted).trans (by decide +kernel), by decide +kernel,
    ((importance_ofRemark _ _).2.1 whole).trans (by decide +kernel), by decide +kernel,
    by decide +kernel⟩

end Todo

end Backlog
