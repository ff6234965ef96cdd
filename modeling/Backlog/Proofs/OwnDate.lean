import Backlog.Proofs.FieldDivision
import Backlog.Proofs.IdleLines
import Backlog.Proofs.SelectionCut
import Backlog.Proofs.ThresholdReading

set_option relaxedAutoImplicit false
set_option autoImplicit false

/-!
# Asking for the date of a todo

The date field of a todo may be given back to a session as a threshold. It is trimmed, so as a word
of a line it is what it is as a field, and a date that gives the todo a day gives the session the
same day. The todo is then among those that are shown. Any other date without blanks is refused.

## Main results

* `Backlog.Text.words_date` — the words of such a line.
* `Backlog.Date.isBlank_of_read?` — a date that is read has no blanks.
* `Backlog.Session.answer_own_date` — the answer to such a line.
-/

namespace Backlog

open Text

variable {t : Text} {d : Date} {todos : List Todo} {todo : Todo}

/-! ## The line -/

/-- A line with `date` and a text without blanks has that text as its second word, unless it is
empty. -/
lemma Text.words_date (unbroken : ∀ c ∈ t, isBlank c = false) (nonempty : t ≠ []) :
    words ("date ".toList ++ t) = ["date".toList, t] := by
  have action : ∀ c ∈ "date".toList, isBlank c = false :=
    any_isBlank_eq_false_iff.mp (by decide)
  have parts : "date ".toList ++ t = "date".toList ++ ' ' :: t := by simp
  rw [parts, words_append_cons action (by decide) rfl, words_of_forall unbroken nonempty]

/-- **A line with `date` and a text without blanks is read as the text is**, also where it is
empty and there is no second word. -/
lemma read_date (unbroken : ∀ c ∈ t, isBlank c = false) :
    Command.read ("date ".toList ++ t) = (Date.readThreshold t).map .showSince := by
  by_cases empty : t = []
  · rw [empty]
    rfl
  · rw [Command.read, words_date unbroken empty]
    rfl

/-! ## The date -/

namespace Date

/-- A trimmed text that is read as a date is made up of digits and dashes. -/
lemma isDigit_of_read? (trimmed : IsTrimmed t) (h : read? t = some d) :
    ∀ c ∈ t, c.isDigit = true ∨ c = '-' := by
  rw [read?, isTrimmed_iff.mp trimmed] at h
  split at h
  · obtain ⟨year, -⟩ := isDigit_of_ofDigits? h
    intro c hc
    exact .inl (year c hc)
  · obtain ⟨year, month, -⟩ := isDigit_of_ofDigits? h
    simp only [List.forall_mem_cons] at year month ⊢
    simp [year, month]
  · obtain ⟨year, month, day⟩ := isDigit_of_ofDigits? h
    simp only [List.forall_mem_cons] at year month day ⊢
    simp [year, month, day]
  · cases h

/-- **A date that is read has no blanks**, if there are none at its ends. -/
lemma isBlank_of_read? (trimmed : IsTrimmed t) (h : read? t = some d) :
    ∀ c ∈ t, isBlank c = false := by
  intro c hc
  rcases isDigit_of_read? trimmed h c hc with digit | rfl
  · exact isBlank_of_isDecimalDigit (isDecimalDigit_of_isDigit digit)
  · rfl

end Date

/-- The date of a todo is trimmed. -/
lemma Todo.isTrimmed_date (file remark : Text) : IsTrimmed (Todo.ofRemark file remark).date :=
  (Fields.isNormal_ofFreeText _).date

/-! ## The answer -/

namespace Session

/-- A request for the day of a todo shows the todo. -/
lemma exists_showsFirst_own_date (trimmed : IsTrimmed todo.date) (h : todo.day? = some d)
    (mem : todo ∈ todos) :
    ∃ k, ShowsFirst (Todo.IsDatedSince d) todos ("date ".toList ++ todo.date) k ∧
      todo ∈ (answer todos ("date ".toList ++ todo.date)).1.take k := by
  have threshold : Date.readThreshold todo.date = .ok d :=
    Date.readThreshold_eq_ok_iff.mpr (Date.threshold?_eq_some_iff.mpr ⟨trimmed, h⟩)
  have read : Command.read ("date ".toList ++ todo.date) = .ok (.showSince d) := by
    rw [read_date (Date.isBlank_of_read? trimmed h), threshold]
    rfl
  have hanswer := answer_of_showSince read todos
  obtain ⟨k, cut⟩ := SortKey.exists_isCut_sort (favours_isSince d) todos
  refine ⟨k, showsFirst_of_isCut (fun other => Todo.isSince_iff) ?_ ?_, ?_⟩
  · rw [hanswer]
  · rwa [hanswer]
  · have sorted : todo ∈ SortKey.date.sort todos := (sortBy_perm _ todos).mem_iff.mpr mem
    have since : todo.isSince d = true := Todo.isSince_iff.mpr ⟨d, h, Date.le_refl d⟩
    rw [hanswer, ← cut.filter_eq]
    exact List.mem_filter.mpr ⟨sorted, since⟩

/-- A request for a date that is no day is refused. -/
lemma answer_of_day?_eq_none (h : todo.day? = none) (unbroken : ∀ c ∈ todo.date, isBlank c = false)
    (todos : List Todo) :
    answer todos ("date ".toList ++ todo.date) = (todos, .refused .invalidDate) := by
  have threshold : Date.readThreshold todo.date = .error .invalidDate := by
    rw [Date.readThreshold_eq_error_iff, Option.eq_none_iff_forall_ne_some]
    intro d hd
    have read : todo.day? = some d := (Date.threshold?_eq_some_iff.mp hd).2
    rw [h] at read
    cases read
  rw [answer, read_date unbroken, threshold]
  rfl

/-- **Asking for the date of a todo.** Let a session have answered any lines about todos that were
read from remarks, and let one of the todos be asked for by its own date. If it has a day, the first
todos of the new order are shown, those whose day is not before this day, and the todo is among
them. If it has none and there are no blanks in its date, the line is refused and the order stays. -/
theorem answer_own_date (built : ∀ todo ∈ todos, ∃ file remark, todo = Todo.ofRemark file remark)
    (lines : List Text) (mem : todo ∈ after todos lines) :
    (∀ d, todo.day? = some d →
      ∃ k, ShowsFirst (Todo.IsDatedSince d) (after todos lines) ("date ".toList ++ todo.date) k ∧
        todo ∈ (answer (after todos lines) ("date ".toList ++ todo.date)).1.take k) ∧
      (todo.day? = none → (∀ c ∈ todo.date, isBlank c = false) →
        answer (after todos lines) ("date ".toList ++ todo.date) =
          (after todos lines, .refused .invalidDate)) := by
  obtain ⟨file, remark, rfl⟩ := built todo ((after_perm todos lines).mem_iff.mp mem)
  have trimmed := Todo.isTrimmed_date file remark
  exact ⟨fun d h => exists_showsFirst_own_date trimmed h mem,
    fun h unbroken => answer_of_day?_eq_none h unbroken _⟩

/-- After a sort, a todo is asked for by a day beyond the end of its month, and one by a date with a
digit of another script. -/
theorem answer_own_date_rolled :
    let rolled := Todo.ofRemark "a".toList "// TODO x;\t2021-02-30 ; y".toList
    let unread := Todo.ofRemark "a".toList "// TODO y; 202١; z!".toList
    let current := after [rolled, unread] ["sort importance".toList]
    (∃ d k, rolled.day? = some d ∧
      ShowsFirst (Todo.IsDatedSince d) current ("date ".toList ++ rolled.date) k ∧
      rolled ∈ (answer current ("date ".toList ++ rolled.date)).1.take k) ∧
      answer current ("date ".toList ++ unread.date) = (current, .refused .invalidDate) := by
  intro rolled unread current
  have built : ∀ todo ∈ [rolled, unread], ∃ file remark, todo = Todo.ofRemark file remark := by
    simp [rolled, unread]
  have mem {todo : Todo} (h : todo ∈ [rolled, unread]) : todo ∈ current :=
    (after_perm _ _).mem_iff.mpr h
  have day : rolled.day? = some ⟨2021, 3, 2, by decide, by decide, by decide, by decide⟩ := by
    decide +kernel
  have none : unread.day? = none := by decide +kernel
  have digits : (unread.date.all fun c => isBlank c == false) = true := by decide +kernel
  have unbroken : ∀ c ∈ unread.date, isBlank c = false := fun c hc =>
    beq_iff_eq.mp (List.all_eq_true.mp digits c hc)
  obtain ⟨k, shows, hmem⟩ :=
    (answer_own_date built ["sort importance".toList] (mem List.mem_cons_self)).1 _ day
  refine ⟨⟨_, k, day, shows, hmem⟩, ?_⟩
  exact (answer_own_date built ["sort importance".toList]
    (mem (List.mem_cons_of_mem _ List.mem_cons_self))).2 none unbroken

end Session

end Backlog
