import Backlog.Proofs.ByteEnds
import Backlog.Proofs.ThresholdReading
import Backlog.Todo.Fields

set_option relaxedAutoImplicit false
set_option autoImplicit false

/-!
# A full date at the end of a text

Whether a full date stands at the end of a text is asked of its last ten bytes, and not of its last
ten characters. The answer is the same. A full date is spelled by ten bytes, one for each of its
characters. Where a character begins before the last ten bytes and ends in them, they are the bytes
of no text, and the last ten characters are no full date.

## Main definitions

* `Backlog.WritesFullDate` — digits and dashes in the form of a full date.
* `Backlog.EndsInFullDate` — a full date at the end of a text, by its characters.

## Main results

* `Backlog.isFullDate_iff` — the test of the form.
* `Backlog.endsInFullDate_iff` — the test by bytes is the one by characters.
-/

namespace Backlog

open Text

/-! ## Full dates -/

variable {t : Text}

/-- The text is `yyyy-mm-dd` in ASCII digits, whether or not the calendar has such a day. -/
def WritesFullDate (t : Text) : Prop :=
  ∃ year month day : Text, t = year ++ '-' :: month ++ '-' :: day ∧
    (year.length = 4 ∧ month.length = 2 ∧ day.length = 2) ∧
    ∀ c ∈ year ++ month ++ day, c.isDigit = true

/-- A full date stands at the end of the text, apart from blanks. -/
def EndsInFullDate (t : Text) : Prop := ∃ date, date <:+ trimEnd t ∧ WritesFullDate date

/-- **The test of the form** admits the full dates. -/
lemma isFullDate_iff : isFullDate t = true ↔ WritesFullDate t := by
  constructor
  · intro h
    unfold isFullDate at h
    split at h
    · next y₁ y₂ y₃ y₄ m₁ m₂ d₁ d₂ =>
      exact ⟨[y₁, y₂, y₃, y₄], [m₁, m₂], [d₁, d₂], rfl, ⟨rfl, rfl, rfl⟩, List.all_eq_true.mp h⟩
    · cases h
  · rintro ⟨year, month, day, rfl, ⟨hyear, hmonth, hday⟩, digits⟩
    obtain ⟨y₁, y₂, y₃, y₄, rfl⟩ := List.length_eq_four.mp hyear
    obtain ⟨m₁, m₂, rfl⟩ := List.length_eq_two.mp hmonth
    obtain ⟨d₁, d₂, rfl⟩ := List.length_eq_two.mp hday
    exact List.all_eq_true.mpr digits

/-- A digit takes one byte. -/
lemma utf8Size_of_isDigit {c : Char} (digit : c.isDigit = true) : c.utf8Size = 1 := by
  have all : (asciiDigits.all fun c => c.utf8Size == 1) = true := by decide
  exact beq_iff_eq.mp (of_all_asciiDigits all digit)

/-- A full date takes ten bytes. -/
lemma WritesFullDate.byteLength_eq (h : WritesFullDate t) : byteLength t = 10 := by
  obtain ⟨year, month, day, rfl, ⟨hyear, hmonth, hday⟩, digits⟩ := h
  have each : ∀ c ∈ year ++ '-' :: month ++ '-' :: day, c.utf8Size = 1 := by
    simp only [List.forall_mem_append, List.forall_mem_cons] at digits ⊢
    exact ⟨⟨fun c hc => utf8Size_of_isDigit (digits.1.1 c hc), rfl,
      fun c hc => utf8Size_of_isDigit (digits.1.2 c hc)⟩, rfl,
      fun c hc => utf8Size_of_isDigit (digits.2 c hc)⟩
  rw [byteLength_of_forall each]
  simp [hyear, hmonth, hday]

/-- **The test by bytes is the one by characters.** -/
theorem endsInFullDate_iff : endsInFullDate t = true ↔ EndsInFullDate t := by
  have read : endsInFullDate t = true ↔
      ∃ date, lastBytes? 10 (trimEnd t) = some date ∧ isFullDate date = true := by
    rw [endsInFullDate]
    cases lastBytes? 10 (trimEnd t) <;> simp
  rw [read]
  constructor
  · rintro ⟨date, last, form⟩
    exact ⟨date, (lastBytes?_eq_some_iff.mp last).1, isFullDate_iff.mp form⟩
  · rintro ⟨date, last, form⟩
    exact ⟨date, lastBytes?_eq_some_iff.mpr ⟨last, form.byteLength_eq⟩, isFullDate_iff.mpr form⟩

end Backlog
