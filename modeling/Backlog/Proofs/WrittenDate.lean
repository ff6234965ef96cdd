import Backlog.Proofs.ByteOrder
import Backlog.Proofs.DateReading
import Backlog.Proofs.TodoComparison

set_option relaxedAutoImplicit false
set_option autoImplicit false

/-!
# Written dates

A date of a year in four digits is read back from its full form, whatever blanks stand around it.
Any date that has been read is of such a year, so it may be written in full and read again. The full
form has a width for each of its parts, the greatest part first, so that full forms are in the order
of their dates, and todos with such dates in the opposite one.

## Main results

* `Backlog.compare_lastDigits` — numerals of a width are in the order of their numbers.
* `Backlog.Date.compare_written` — full forms are in the order of their dates.
* `Backlog.Date.read?_written` — a full form is read back.
* `Backlog.Todo.compareDays_of_written` — todos with full forms as dates.
* `Backlog.Date.read?_written_and_order` — the three together.
-/

namespace Backlog

open Text

/-! ## Numerals -/

/-- Digits are in the order of the numbers that they stand for. -/
lemma compare_digitChar {m n : ℕ} (hm : m < 10) (hn : n < 10) :
    compare [Nat.digitChar m] [Nat.digitChar n] = compare m n := by
  have all : ∀ m < 10, ∀ n < 10, compare [Nat.digitChar m] [Nat.digitChar n] = compare m n := by
    decide
  exact all m hm n hn

/-- Numbers are compared by their tens first, and then by their ones. -/
lemma compare_div_mod (m n : ℕ) :
    (compare (m / 10) (n / 10)).then (compare (m % 10) (n % 10)) = compare m n := by
  rcases Nat.lt_trichotomy (m / 10) (n / 10) with less | same | more
  · have whole : m < n := by omega
    rw [Nat.compare_eq_lt.mpr less, Nat.compare_eq_lt.mpr whole]
    rfl
  · rw [Nat.compare_eq_eq.mpr same, Ordering.eq_then, Nat.compare_eq_ite_lt, Nat.compare_eq_ite_lt]
    have below : m % 10 < n % 10 ↔ m < n := by omega
    have above : n % 10 < m % 10 ↔ n < m := by omega
    simp only [below, above]
  · have whole : n < m := by omega
    rw [Nat.compare_eq_gt.mpr more, Nat.compare_eq_gt.mpr whole]
    rfl

/-- **Numerals of a width are in the order of their numbers**, if they are wide enough.

**Proof sketch.** Induction on the width. All digits but the last are the numerals of the tens,
which have one length, and the last digits are those of the ones. -/
lemma compare_lastDigits {width m n : ℕ} (hm : m < 10 ^ width) (hn : n < 10 ^ width) :
    compare (lastDigits width m) (lastDigits width n) = compare m n := by
  induction width generalizing m n with
  | zero =>
    obtain rfl : m = n := by omega
    rw [Std.ReflOrd.compare_self, Std.ReflOrd.compare_self]
  | succ width ih =>
    rw [pow_succ] at hm hn
    have length : (lastDigits width (m / 10)).length = (lastDigits width (n / 10)).length := by
      rw [(lastDigits_spec width _).1, (lastDigits_spec width _).1]
    rw [lastDigits, lastDigits, compare_append length, ih (by omega) (by omega),
      compare_digitChar (Nat.mod_lt m (by decide)) (Nat.mod_lt n (by decide)), compare_div_mod]

namespace Date

variable {t : Text} {d e : Date}

/-! ## The order of full forms -/

/-- The parts of a date are narrow enough for the full form, if the year is. -/
lemma parts_lt (years : d.year ≤ 9999) : d.year < 10 ^ 4 ∧ d.month < 10 ^ 2 ∧ d.day < 10 ^ 2 := by
  have months := d.month_le
  have days := d.day_le.trans (monthLength_le d.year d.month)
  omega

/-- **Full forms are in the order of their dates**, as texts. -/
lemma compare_written (hd : d.year ≤ 9999) (he : e.year ≤ 9999) :
    compare d.written e.written = compare d e := by
  obtain ⟨dYear, dMonth, dDay⟩ := parts_lt hd
  obtain ⟨eYear, eMonth, eDay⟩ := parts_lt he
  have width (n k l : ℕ) : (lastDigits n k).length = (lastDigits n l).length := by
    rw [(lastDigits_spec n k).1, (lastDigits_spec n l).1]
  have dash (s t : Text) : compare ('-' :: s) ('-' :: t) = compare s t :=
    compare_append_left ['-'] s t
  rw [written, written, List.append_assoc, List.append_assoc, compare_append (width 4 _ _),
    List.cons_append, List.cons_append, dash, compare_append (width 2 _ _), dash,
    compare_lastDigits dYear eYear, compare_lastDigits dMonth eMonth, compare_lastDigits dDay eDay]
  rfl

/-! ## Reading full forms -/

/-- The full form has the three parts of a form. -/
lemma hasForm_written (d : Date) :
    HasForm d.written (lastDigits 4 d.year) (lastDigits 2 d.month) (lastDigits 2 d.day) :=
  .day (lastDigits_spec 4 _).1 (lastDigits_spec 2 _).1 (lastDigits_spec 2 _).1

/-- The parts of the full form are written in digits. -/
lemma isDigit_of_mem_parts (d : Date) :
    ∀ c ∈ lastDigits 4 d.year ++ lastDigits 2 d.month ++ lastDigits 2 d.day, c.isDigit = true := by
  rw [List.forall_mem_append, List.forall_mem_append]
  exact ⟨⟨(lastDigits_spec 4 _).2, (lastDigits_spec 2 _).2⟩, (lastDigits_spec 2 _).2⟩

/-- The full form has digits and dashes only, and so no blanks. -/
lemma isTrimmed_written (d : Date) : IsTrimmed d.written := by
  have digits := d.isDigit_of_mem_parts
  refine isTrimmed_of_forall fun c hc => ?_
  by_cases dash : c = '-'
  · subst dash
    rfl
  · refine isBlank_of_isDecimalDigit (isDecimalDigit_of_isDigit (digits c ?_))
    simpa [written, dash] using hc

/-- Every day is counted from the first of its month. -/
lemma isCounted_self (d : Date) : IsCounted d.year d.month d.day d :=
  ⟨rfl, fun _ => ⟨rfl, rfl⟩, fun beyond => absurd d.day_le (by omega)⟩

/-- **A full form is read back**, also between blanks. -/
lemma read?_of_trim_eq_written (years : d.year ≤ 9999) (h : trim t = d.written) :
    read? t = some d := by
  obtain ⟨year, month, day⟩ := parts_lt years
  have days := d.day_le.trans (monthLength_le d.year d.month)
  refine read?_eq_some_iff.mpr ⟨_, _, _, h ▸ d.hasForm_written,
    ofDigits?_eq_some_iff.mpr ⟨d.isDigit_of_mem_parts, ?_⟩⟩
  rw [number_lastDigits year, number_lastDigits month, number_lastDigits day,
    counted?_eq_some_iff years]
  exact ⟨⟨d.one_le_month, d.month_le, d.one_le_day, days⟩, d.isCounted_self⟩

/-- A full form is read back. -/
lemma read?_written (years : d.year ≤ 9999) : read? d.written = some d :=
  read?_of_trim_eq_written years (isTrimmed_iff.mp d.isTrimmed_written)

/-- Only dates of years in four digits are read. -/
lemma year_le_of_read? (h : read? t = some d) : d.year ≤ 9999 := by
  obtain ⟨year, month, day, form, read⟩ := read?_eq_some_iff.mp h
  obtain ⟨digits, counted⟩ := ofDigits?_eq_some_iff.mp read
  have years := form.number_year_le digits
  rw [((counted?_eq_some_iff years).mp counted).2.year_eq]
  exact years

end Date

/-- **Todos with full forms as dates** are compared by their days against the order of the texts. -/
lemma Todo.compareDays_of_written {a b : Todo} {d e : Date} (hd : d.year ≤ 9999)
    (he : e.year ≤ 9999) (ha : a.date = d.written) (hb : b.date = e.written) :
    a.compareDays b = (compare a.date b.date).swap := by
  have first : a.day? = some d := by rw [Todo.day?, ha, Date.read?_written hd]
  have second : b.day? = some e := by rw [Todo.day?, hb, Date.read?_written he]
  rw [ha, hb, Date.compare_written hd he, ← Std.OrientedOrd.eq_swap, Todo.compareDays, first,
    second]

namespace Date

/-- **Written dates.** A date of the years `0` to `9999` is read from its full form, with any blanks
on the two sides. Whatever has been read as a date may be written in full and is read again as this
date. And if the dates of two todos are full forms of dates of the calendar, the comparison by days
is the reverse of the comparison of the two texts. -/
theorem read?_written_and_order :
    (∀ d : Date, d.year ≤ 9999 → ∀ before after : Text,
        (∀ c ∈ before ++ after, isBlank c = true) → read? (before ++ d.written ++ after) = some d) ∧
      (∀ (t : Text) (d : Date), read? t = some d → read? d.written = some d) ∧
      ∀ (a b : Todo) (d e : Date), d.year ≤ 9999 → e.year ≤ 9999 → a.date = d.written →
        b.date = e.written → a.compareDays b = (compare a.date b.date).swap := by
  refine ⟨fun d years before after blank => ?_, fun t d h => read?_written (year_le_of_read? h),
    fun a b d e hd he => Todo.compareDays_of_written hd he⟩
  rw [List.forall_mem_append] at blank
  refine read?_of_trim_eq_written years ?_
  rw [trim_append_blanks blank.2, trim_blanks_append blank.1]
  exact isTrimmed_iff.mp d.isTrimmed_written

/-- The last day of February in a leap year between two kinds of blanks, a day that February does
not have, and two days on either side of the end of a year. -/
theorem read?_written_and_order_leap :
    let leap : Date := ⟨2020, 2, 29, by decide, by decide, by decide, by decide⟩
    let rolled : Date := ⟨2021, 3, 2, by decide, by decide, by decide, by decide⟩
    let last := Todo.ofRemark "a".toList "// TODO x; 0999-12-31; y".toList
    let first := Todo.ofRemark "a".toList "// TODO x; 1000-01-01; y".toList
    read? "\u20032020-02-29\t".toList = some leap ∧
      (read? "2021-02-30".toList = some rolled ∧ read? rolled.written = some rolled) ∧
      last.compareDays first = (compare last.date first.date).swap := by
  intro leap rolled last first
  obtain ⟨between, again, order⟩ := read?_written_and_order
  have text : "\u20032020-02-29\t".toList = ['\u2003'] ++ leap.written ++ ['\t'] := by
    decide +kernel
  have blank : ∀ c ∈ ['\u2003'] ++ ['\t'], isBlank c = true := List.all_eq_true.mp (by decide)
  have read : read? "2021-02-30".toList = some rolled := by decide +kernel
  refine ⟨?_, ⟨read, again _ _ read⟩, ?_⟩
  · rw [text]
    exact between leap (by decide) _ _ blank
  · exact order last first ⟨999, 12, 31, by decide, by decide, by decide, by decide⟩
      ⟨1000, 1, 1, by decide, by decide, by decide, by decide⟩ (by decide) (by decide)
      (by decide +kernel) (by decide +kernel)

end Date

end Backlog
