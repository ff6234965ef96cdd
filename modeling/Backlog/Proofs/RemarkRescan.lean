import Backlog.Proofs.RemarkSpans
import Backlog.Proofs.WrittenRemark

set_option relaxedAutoImplicit false
set_option autoImplicit false

/-!
# Remarks that are searched again

A remark stands for itself: what it says does not depend on the line around it. The search drops
the terminator of a line and then looks for a place, while a remark begins at that place and has its
terminator dropped afterwards. Both lead to the same free text. So a remark is its own only remark,
and the remarks of a text, put together, have themselves as remarks.

## Main definitions

* `Backlog.Remark.IsDetectedAt` — the place of a line from which its remark goes to the end.

## Main results

* `Backlog.Remark.isLongest_iff_exists_place`, `Backlog.Remark.inLine?_eq_some_iff_isDetectedAt` — a
  remark by its place in a content and in a line.
* `Backlog.Remark.lines_flatten_inText` — each remark of a text is a line of all remarks.
* `Backlog.Remark.inText_flatten_inText` — what is found again, and what it says.
-/

namespace Backlog.Remark

open Text

variable {s t line span : Text} {place : ℕ}

/-! ## The place of a remark -/

/-- `place` is the first place at which the content of the line goes on with a head, and `span` is
the line from there on. -/
structure IsDetectedAt (line : Text) (place : ℕ) (span : Text) : Prop where
  span_eq : span = line.drop place
  begins : BeginsWithHead ((content line).drop place)
  first : ∀ earlier < place, ¬ BeginsWithHead ((content line).drop earlier)

/-- The content of a remark is the content of its line from its place on. -/
lemma IsDetectedAt.content_eq (h : IsDetectedAt line place span) :
    content span = (content line).drop place := by
  rw [h.span_eq, content_drop]

/-- **The longest end with a head begins at the first place** where the text goes on with one: the
earlier the place, the longer the end. -/
lemma isLongest_iff_exists_place :
    IsLongest s t ↔ ∃ place, s = t.drop place ∧ BeginsWithHead (t.drop place) ∧
      ∀ earlier < place, ¬ BeginsWithHead (t.drop earlier) := by
  constructor
  · intro longest
    obtain ⟨front, rfl⟩ := longest.suffix
    refine ⟨front.length, List.drop_left.symm, ?_, fun earlier before begins => ?_⟩
    · rw [List.drop_left]
      exact longest.begins
    · have least := longest.longest _ (List.drop_suffix earlier _) begins
      rw [List.length_drop, List.length_append] at least
      omega
  · rintro ⟨place, rfl, begins, first⟩
    refine ⟨List.drop_suffix place t, begins, ?_⟩
    rintro s ⟨front, rfl⟩ hs
    by_contra longer
    rw [List.length_drop, List.length_append] at longer
    refine first front.length (by omega) ?_
    rwa [List.drop_left]

/-- Where the content goes on with a head, the line goes on with the same and its terminator. -/
lemma drop_eq_append (h : BeginsWithHead ((content line).drop place)) :
    line.drop place = (content line).drop place ++ line.drop (content line).length := by
  have inside : place ≤ (content line).length := by
    by_contra outside
    obtain ⟨rest, slash⟩ := h.exists_eq_cons
    rw [List.drop_eq_nil_of_le (by omega)] at slash
    cases slash
  rw [← List.drop_append_of_le_length inside, content_append_drop]

/-- **The remark of a line by its place.** -/
lemma inLine?_eq_some_iff_isDetectedAt :
    inLine? line = some span ↔ ∃ place, IsDetectedAt line place span := by
  simp only [inLine?, Option.map_eq_some_iff, inContent?_eq_some_iff, isLongest_iff_exists_place]
  constructor
  · rintro ⟨_, ⟨place, rfl, begins, first⟩, rfl⟩
    exact ⟨place, (drop_eq_append begins).symm, begins, first⟩
  · rintro ⟨place, rfl, begins, first⟩
    exact ⟨_, ⟨place, rfl, begins, first⟩, (drop_eq_append begins).symm⟩

/-- **A remark is the remark of itself**, detected at its front. -/
lemma inLine?_of_inLine? (h : inLine? line = some span) : inLine? span = some span := by
  obtain ⟨place, detected⟩ := inLine?_eq_some_iff_isDetectedAt.mp h
  refine inLine?_eq_some_iff_isDetectedAt.mpr ⟨0, rfl, ?_, nofun⟩
  rw [List.drop_zero, detected.content_eq]
  exact detected.begins

/-! ## The remarks of remarks -/

/-- A remark is not empty. -/
lemma ne_nil_of_inLine? (h : inLine? line = some span) : span ≠ [] := by
  obtain ⟨place, detected⟩ := inLine?_eq_some_iff_isDetectedAt.mp h
  rintro rfl
  obtain ⟨rest, slash⟩ := detected.begins.exists_eq_cons
  rw [← detected.content_eq] at slash
  cases slash

/-- The remarks of a text are the pieces of all remarks put together. -/
lemma isCutAfter_inText (t : Text) : IsCutAfter '\n' (inText t).flatten (inText t) :=
  (isCutAfter_cutAfter '\n' t).filterMap fun _ _ h =>
    ⟨isSuffix_of_inLine? h, ne_nil_of_inLine? h⟩

/-- **Each remark of a text is a line of all remarks put together.** -/
lemma lines_flatten_inText (t : Text) : lines (inText t).flatten = inText t :=
  (isCutAfter_iff.mp (isCutAfter_inText t)).symm

/-- A remark is one line. -/
lemma lines_of_mem_inText (h : span ∈ inText t) : lines span = [span] :=
  (isCutAfter_iff.mp ((isCutAfter_inText t).of_mem h)).symm

/-- The remark of a remark is itself. -/
lemma inLine?_of_mem_inText (h : span ∈ inText t) : inLine? span = some span := by
  obtain ⟨line, -, found⟩ := List.mem_filterMap.mp h
  exact inLine?_of_inLine? found

/-- The remarks of a text are those that are detected at a place of a line. -/
lemma mem_inText_iff :
    span ∈ inText t ↔ ∃ line ∈ lines t, ∃ place, IsDetectedAt line place span := by
  simp only [inText, List.mem_filterMap, inLine?_eq_some_iff_isDetectedAt]

/-- **Remarks stand for themselves.** The remarks of a text are what is detected at a place of some
line. Each has a free text, which makes up the fields of its todo, and that is the free text of the
line's content from this place on. Searched again, the remark is all that is found. The remarks of
the text, put together and searched again, are found as they are. -/
theorem inText_flatten_inText (t : Text) :
    (∀ span, span ∈ inText t ↔ ∃ line ∈ lines t, ∃ place, IsDetectedAt line place span) ∧
    (∀ span ∈ inText t,
      (∃ free, freeText? (content span) = some free ∧
        (∀ line place, IsDetectedAt line place span →
          freeText? ((content line).drop place) = some free) ∧
        ∀ file, (Todo.ofRemark file span).fields = Fields.ofFreeText free) ∧
      inText span = [span]) ∧
    inText (inText t).flatten = inText t := by
  refine ⟨fun span => mem_inText_iff, fun span mem => ?_, ?_⟩
  · obtain ⟨line, -, place, detected⟩ := mem_inText_iff.mp mem
    obtain ⟨free, read⟩ : ∃ free, freeText? (content span) = some free := by
      rw [← Option.isSome_iff_exists, isSome_freeText?_iff, detected.content_eq]
      exact detected.begins
    refine ⟨⟨free, read, ?_, fun file => ?_⟩, ?_⟩
    · intro line place detected
      rw [← detected.content_eq, read]
    · rw [Todo.fields_ofRemark, Todo.fieldsOf, read, Option.getD_some]
    · rw [inText, lines_of_mem_inText mem, List.filterMap_cons_some (inLine?_of_mem_inText mem),
        List.filterMap_nil]
  · have same : (inText t).filterMap inLine? = (inText t).filterMap some :=
      List.filterMap_congr fun span mem => inLine?_of_mem_inText mem
    rw [inText, lines_flatten_inText, same, List.filterMap_some]

/-- Two remarks, of which the first stands behind code and one more slash and keeps one of its two
carriage returns, and the second ends without a line feed. -/
theorem inText_flatten_inText_returns :
    let t := "f(); /// TODO a\r\r\nx\n//todo:b; c".toList
    let line := "f(); /// TODO a\r\r\n".toList
    let span := "// TODO a\r\r\n".toList
    IsDetectedAt line 6 span ∧ freeText? (content span) = some "a\r".toList ∧
      freeText? ((content line).drop 6) = some "a\r".toList ∧
      (Todo.ofRemark "f".toList span).comment = "a".toList ∧ inText span = [span] ∧
      inText t = [span, "//todo:b; c".toList] ∧ inText (inText t).flatten = inText t := by
  intro t line span
  have two : inText t = [span, "//todo:b; c".toList] := by decide +kernel
  obtain ⟨-, each, again⟩ := inText_flatten_inText t
  obtain ⟨⟨free, read, fromLine, fields⟩, alone⟩ := each span (two ▸ List.mem_cons_self)
  obtain rfl : free = "a\r".toList := Option.some.inj (read.symm.trans (by decide +kernel))
  have detected : IsDetectedAt line 6 span := by
    refine ⟨by decide +kernel, ?_, ?_⟩
    · exact isSome_freeText?_iff.mp (by decide +kernel)
    · simp only [← isSome_freeText?_iff]
      decide +kernel
  have comment := congrArg Fields.comment (fields "f".toList)
  exact ⟨detected, read, fromLine line 6 detected, comment.trans (by decide +kernel), alone, two,
    again⟩

end Backlog.Remark
