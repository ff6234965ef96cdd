import Backlog.Proofs.Trimming
import Backlog.Todo.Fields

set_option relaxedAutoImplicit false
set_option autoImplicit false

/-!
# The division of a free text

Whatever a free text looks like, the fields that it is divided into are of one form: they are
trimmed, and no semicolon stands in the user or in the date. Fields of this form can be written
down with two semicolons and are read back from there.

## Main definitions

* `Backlog.Fields.IsNormal` — the form of fields that have been read.
* `Backlog.Fields.laidOut` — fields as a free text with both semicolons.

## Main results

* `Backlog.Fields.isNormal_ofFreeText` — the division has this form.
* `Backlog.Fields.ofFreeText_append_blank` — a blank at the end makes no difference.
* `Backlog.Fields.ofFreeText_laidOut` — fields of this form are read back.
* `Backlog.Fields.notMem_ofFreeText` — no field has a character that the free text has not.
* `Backlog.Fields.mem_ofFreeText_iff` — a character of the free text is found in some field.
-/

namespace Backlog

open Text

/-! ## Cutting at a character -/

/-- A text is cut at the first occurrence. -/
lemma Text.cutAt?_eq_some_iff {c : Char} {t before after : Text} :
    cutAt? c t = some (before, after) ↔ t = before ++ c :: after ∧ c ∉ before := by
  constructor
  · intro h
    have whole := List.takeWhile_append_dropWhile (p := (· ≠ c)) (l := t)
    have first := List.head?_dropWhile_not (fun x : Char => decide (x ≠ c)) t
    unfold cutAt? at h
    split at h
    · cases h
    · next x rest hrest =>
      rw [hrest] at whole first
      obtain rfl : x = c := by simpa using first
      cases h
      exact ⟨whole.symm, fun hx => by simpa using List.mem_takeWhile_imp hx⟩
  · rintro ⟨rfl, h⟩
    have others : ∀ x ∈ before, decide (x ≠ c) = true := fun x hx =>
      decide_eq_true fun same => h (same ▸ hx)
    rw [cutAt?, List.dropWhile_append_of_pos others, List.takeWhile_append_of_pos others]
    simp

/-- A text is not cut at a character that does not occur. -/
lemma Text.cutAt?_eq_none {c : Char} {t : Text} (h : c ∉ t) : cutAt? c t = none := by
  rw [Option.eq_none_iff_forall_ne_some]
  rintro ⟨before, after⟩ cut
  obtain ⟨rfl, -⟩ := cutAt?_eq_some_iff.mp cut
  exact h (by simp)

namespace Fields

/-! ## The form of the fields -/

/-- The fields are trimmed, and no semicolon stands in the user or in the date. -/
structure IsNormal (fields : Fields) : Prop where
  user : IsTrimmed fields.user
  date : IsTrimmed fields.date
  comment : IsTrimmed fields.comment
  user_semicolon : ';' ∉ fields.user
  date_semicolon : ';' ∉ fields.date

/-- The fields of a free text without semicolons. -/
lemma ofFreeText_of_none {free : Text} (h : ';' ∉ free) : ofFreeText free = ⟨[], [], trim free⟩ := by
  rw [ofFreeText, cutAt?_eq_none h]

/-- The fields of a free text with one semicolon. -/
lemma ofFreeText_of_one {user tail : Text} (huser : ';' ∉ user) (htail : ';' ∉ tail) :
    ofFreeText (user ++ ';' :: tail) =
      ⟨trim user, [], trim (if endsInFullDate user then tail else user ++ ';' :: tail)⟩ := by
  rw [ofFreeText, cutAt?_eq_some_iff.mpr ⟨rfl, huser⟩]
  simp only [cutAt?_eq_none htail]

/-- The fields of a free text with two semicolons or more. -/
lemma ofFreeText_of_two {user date : Text} (huser : ';' ∉ user) (hdate : ';' ∉ date)
    (comment : Text) :
    ofFreeText (user ++ ';' :: (date ++ ';' :: comment)) =
      ⟨trim user, trim date, trim comment⟩ := by
  rw [ofFreeText, cutAt?_eq_some_iff.mpr ⟨rfl, huser⟩]
  simp only [cutAt?_eq_some_iff.mpr ⟨rfl, hdate⟩]

/-- A free text has no semicolon, or one, or two or more. -/
lemma semicolon_cases (free : Text) :
    ';' ∉ free ∨
      (∃ user tail, free = user ++ ';' :: tail ∧ ';' ∉ user ∧ ';' ∉ tail) ∨
      ∃ user date comment, free = user ++ ';' :: (date ++ ';' :: comment) ∧
        ';' ∉ user ∧ ';' ∉ date := by
  by_cases one : ';' ∈ free
  · obtain ⟨user, tail, rfl, huser⟩ := List.eq_append_cons_of_mem one
    by_cases two : ';' ∈ tail
    · obtain ⟨date, comment, rfl, hdate⟩ := List.eq_append_cons_of_mem two
      exact .inr (.inr ⟨user, date, comment, rfl, huser, hdate⟩)
    · exact .inr (.inl ⟨user, tail, rfl, huser, two⟩)
  · exact .inl one

/-- **Every free text is divided into fields of one form.** -/
theorem isNormal_ofFreeText (free : Text) : (ofFreeText free).IsNormal := by
  have trimmed {c : Char} {t : Text} (h : c ∉ t) : c ∉ trim t := fun hc => h (mem_of_mem_trim hc)
  rcases semicolon_cases free with none | ⟨user, tail, rfl, huser, htail⟩ |
    ⟨user, date, comment, rfl, huser, hdate⟩
  · rw [ofFreeText_of_none none]
    exact ⟨isTrimmed_trim [], isTrimmed_trim [], isTrimmed_trim free, List.not_mem_nil,
      List.not_mem_nil⟩
  · rw [ofFreeText_of_one huser htail]
    exact ⟨isTrimmed_trim user, isTrimmed_trim [], isTrimmed_trim _, trimmed huser,
      List.not_mem_nil⟩
  · rw [ofFreeText_of_two huser hdate]
    exact ⟨isTrimmed_trim user, isTrimmed_trim date, isTrimmed_trim comment, trimmed huser,
      trimmed hdate⟩

/-- A blank at the end of a free text belongs to no field.

**Proof sketch.** However many semicolons there are, only the comment reaches to the end, and it is
trimmed there. -/
lemma ofFreeText_append_blank {c : Char} (blank : isBlank c = true) (free : Text) :
    ofFreeText (free ++ [c]) = ofFreeText free := by
  have noSemicolon : ';' ≠ c := by
    rintro rfl
    exact absurd blank (by decide)
  have still {t : Text} (h : ';' ∉ t) : ';' ∉ t ++ [c] := by simp [h, noSemicolon]
  rcases semicolon_cases free with none | ⟨user, tail, rfl, huser, htail⟩ |
    ⟨user, date, comment, rfl, huser, hdate⟩
  · rw [ofFreeText_of_none (still none), ofFreeText_of_none none, trim_append_blank blank]
  · have shape : user ++ ';' :: tail ++ [c] = user ++ ';' :: (tail ++ [c]) := by simp
    rw [shape, ofFreeText_of_one huser (still htail), ofFreeText_of_one huser htail, ← shape]
    split_ifs
    · rw [trim_append_blank blank]
    · rw [trim_append_blank blank]
  · have shape : user ++ ';' :: (date ++ ';' :: comment) ++ [c] =
        user ++ ';' :: (date ++ ';' :: (comment ++ [c])) := by simp
    rw [shape, ofFreeText_of_two huser hdate, ofFreeText_of_two huser hdate,
      trim_append_blank blank]

/-! ## Writing fields down -/

/-- The fields as a free text with both semicolons, and some spaces behind each of them. -/
def laidOut (fields : Fields) (beforeDate beforeComment : ℕ) : Text :=
  fields.user ++ ';' :: (List.replicate beforeDate ' ' ++ fields.date ++
    ';' :: (List.replicate beforeComment ' ' ++ fields.comment))

/-- **Fields that are written down are read back.** -/
theorem ofFreeText_laidOut {fields : Fields} (h : fields.IsNormal) (m n : ℕ) :
    ofFreeText (fields.laidOut m n) = fields := by
  have hdate : ';' ∉ List.replicate m ' ' ++ fields.date := by
    simp [List.mem_replicate, h.date_semicolon]
  rw [laidOut, ofFreeText_of_two h.user_semicolon hdate, trim_spaces_append, trim_spaces_append,
    isTrimmed_iff.mp h.user, isTrimmed_iff.mp h.date, isTrimmed_iff.mp h.comment]

/-- What is written down ends in no blank but a space.

**Proof sketch.** It ends as the comment does, which is trimmed. If the comment is empty, it ends in
the second semicolon or in a space behind it. -/
lemma getLast?_laidOut_ne {fields : Fields} (h : fields.IsNormal) (m n : ℕ) {c : Char}
    (blank : isBlank c = true) (space : c ≠ ' ') : (fields.laidOut m n).getLast? ≠ some c := by
  intro last
  have parts : fields.laidOut m n = fields.user ++ ';' :: (List.replicate m ' ' ++ fields.date) ++
      ';' :: List.replicate n ' ' ++ fields.comment := by
    simp [laidOut]
  rw [parts, List.getLast?_append, Option.or_eq_some_iff] at last
  rcases last with last | ⟨-, last⟩
  · exact h.comment.getLast?_ne blank last
  · rw [List.getLast?_append_of_ne_nil _ (List.cons_ne_nil _ _)] at last
    have member := List.mem_of_getLast? last
    rw [List.mem_cons, List.mem_replicate] at member
    rcases member with rfl | ⟨-, same⟩
    · exact absurd blank (by decide)
    · exact space same

/-! ## What the fields hold -/

/-- No character is added in the division. -/
lemma notMem_ofFreeText {c : Char} {free : Text} (h : c ∉ free) :
    c ∉ (ofFreeText free).user ∧ c ∉ (ofFreeText free).date ∧ c ∉ (ofFreeText free).comment := by
  have trimmed {t : Text} (h : c ∉ t) : c ∉ trim t := fun hc => h (mem_of_mem_trim hc)
  have nothing : c ∉ ([] : Text) := List.not_mem_nil
  rcases semicolon_cases free with none | ⟨user, tail, rfl, huser, htail⟩ |
    ⟨user, date, comment, rfl, huser, hdate⟩
  · rw [ofFreeText_of_none none]
    exact ⟨nothing, nothing, trimmed h⟩
  · rw [ofFreeText_of_one huser htail]
    have parts := h
    simp only [List.mem_append, List.mem_cons, not_or] at parts
    refine ⟨trimmed parts.1, nothing, trimmed ?_⟩
    split_ifs
    · exact parts.2.2
    · exact h
  · rw [ofFreeText_of_two huser hdate]
    simp only [List.mem_append, List.mem_cons, not_or] at h
    exact ⟨trimmed h.1, trimmed h.2.2.1, trimmed h.2.2.2.2⟩

/-- **No character is lost** in the division, blanks and semicolons apart. -/
theorem mem_ofFreeText_iff {c : Char} (blank : isBlank c = false) (semicolon : c ≠ ';')
    (free : Text) :
    c ∈ free ↔ c ∈ (ofFreeText free).user ∨ c ∈ (ofFreeText free).date ∨
      c ∈ (ofFreeText free).comment := by
  have trimmed (t : Text) : c ∈ trim t ↔ c ∈ t := by
    rw [← List.count_pos_iff, count_trim blank, List.count_pos_iff]
  rcases semicolon_cases free with none | ⟨user, tail, rfl, huser, htail⟩ |
    ⟨user, date, comment, rfl, huser, hdate⟩
  · simp [ofFreeText_of_none none, trimmed]
  · rw [ofFreeText_of_one huser htail]
    split_ifs <;> simp [trimmed, semicolon]
  · simp [ofFreeText_of_two huser hdate, trimmed, semicolon]

end Fields

end Backlog
