import Backlog.Proofs.ThresholdReading

set_option relaxedAutoImplicit false
set_option autoImplicit false

/-!
# The reading of dates

A text is read as a date if it writes one in one of three forms, perhaps between blanks. The day is
then counted from the first of the month, and runs on into the next month where the month is too
short. A December is not, so the count stays in its year, and since a year has four digits it stays
far from the end of the calendar: neither the first of the month nor the day is ever missing.

## Main definitions

* `Backlog.Date.IsCounted` — a day that is counted from the first of a month.
* `Backlog.Date.HasForm` — the parts of a text in one of the forms.
* `Backlog.Date.WritesParts` — a text writes a year, a month and a day.

## Main results

* `Backlog.number_lastDigits`, `Backlog.lastDigits_number` — numerals of a width and their numbers.
* `Backlog.Date.isCounted_plusDays` — the days after the first of a month.
* `Backlog.Date.exists_plusDays?` — the count never fails.
* `Backlog.Date.read?_eq_some_iff` — a text is read by the parts of its form.
* `Backlog.Date.read?_iff_writesParts` — which texts are read, and as which dates.
-/

namespace Backlog

open Text

variable {t : Text} {d : Date}

/-! ## Numerals -/

/-- One more digit behind a numeral. -/
lemma number_append_singleton (t : Text) (c : Char) :
    number (t ++ [c]) = 10 * number t + (c.toNat - '0'.toNat) := by
  rw [number, List.foldl_append, List.foldl_cons, List.foldl_nil, number]

/-- A digit stands for a number below ten, which is written by this digit. -/
lemma digitChar_of_isDigit {c : Char} (h : c.isDigit = true) :
    c.toNat - '0'.toNat < 10 ∧ Nat.digitChar (c.toNat - '0'.toNat) = c := by
  have all : (asciiDigits.all fun c => decide (c.toNat - '0'.toNat < 10 ∧
      Nat.digitChar (c.toNat - '0'.toNat) = c)) = true := by decide
  exact of_decide_eq_true (of_all_asciiDigits all h)

/-- A number below ten is written by a digit, which stands for this number. -/
lemma toNat_digitChar {n : ℕ} (h : n < 10) :
    (Nat.digitChar n).isDigit = true ∧ (Nat.digitChar n).toNat - '0'.toNat = n := by
  have all : ∀ n < 10, (Nat.digitChar n).isDigit = true ∧
      (Nat.digitChar n).toNat - '0'.toNat = n := by decide
  exact all n h

/-- A numeral of a width has so many digits. -/
lemma lastDigits_spec (width n : ℕ) :
    (lastDigits width n).length = width ∧ ∀ c ∈ lastDigits width n, c.isDigit = true := by
  induction width generalizing n with
  | zero => exact ⟨rfl, nofun⟩
  | succ width ih =>
    obtain ⟨length, digits⟩ := ih (n / 10)
    have last := (toNat_digitChar (Nat.mod_lt n (by decide : 0 < 10))).1
    rw [lastDigits, List.length_append, length, List.forall_mem_append]
    exact ⟨rfl, digits, List.forall_mem_singleton.mpr last⟩

/-- A number is read from its numeral, if the numeral is wide enough. -/
lemma number_lastDigits {width n : ℕ} (h : n < 10 ^ width) : number (lastDigits width n) = n := by
  induction width generalizing n with
  | zero =>
    obtain rfl : n = 0 := by simpa using h
    rfl
  | succ width ih =>
    have rest : n / 10 < 10 ^ width := by rw [pow_succ] at h; omega
    have last := (toNat_digitChar (Nat.mod_lt n (by decide : 0 < 10))).2
    rw [lastDigits, number_append_singleton, ih rest, last]
    omega

/-- Digits are the numeral of the number that they write. -/
lemma lastDigits_number (digits : ∀ c ∈ t, c.isDigit = true) :
    number t < 10 ^ t.length ∧ lastDigits t.length (number t) = t := by
  induction t using List.reverseRecOn with
  | nil => exact ⟨by decide, rfl⟩
  | append_singleton t c ih =>
    rw [List.forall_mem_append, List.forall_mem_singleton] at digits
    obtain ⟨bound, same⟩ := ih digits.1
    obtain ⟨small, written⟩ := digitChar_of_isDigit digits.2
    have rest : (10 * number t + (c.toNat - '0'.toNat)) / 10 = number t := by omega
    have last : (10 * number t + (c.toNat - '0'.toNat)) % 10 = c.toNat - '0'.toNat := by omega
    rw [number_append_singleton, List.length_append, List.length_singleton]
    refine ⟨by rw [pow_succ]; omega, ?_⟩
    rw [lastDigits, rest, last, same, written]

namespace Date

/-! ## The days after the first of a month -/

/-- The date is the day with this number, counted from the first of the month: a day of the month
itself if that is long enough, and otherwise one of the next month, in the same year. -/
structure IsCounted (year month day : ℕ) (d : Date) : Prop where
  year_eq : d.year = year
  within : day ≤ monthLength year month → d.month = month ∧ d.day = day
  beyond : monthLength year month < day →
    d.month = month + 1 ∧ d.day = day - monthLength year month

/-- One day is counted. -/
lemma IsCounted.unique {year month day : ℕ} {other : Date} (h : IsCounted year month day d)
    (hother : IsCounted year month day other) : d = other := by
  have parts : d.month = other.month ∧ d.day = other.day := by
    rcases Nat.lt_or_ge (monthLength year month) day with beyond | within
    · rw [(h.beyond beyond).1, (h.beyond beyond).2, (hother.beyond beyond).1,
        (hother.beyond beyond).2]
      exact ⟨rfl, rfl⟩
    · rw [(h.within within).1, (h.within within).2, (hother.within within).1,
        (hother.within within).2]
      exact ⟨rfl, rfl⟩
  have year := h.year_eq.trans hother.year_eq.symm
  cases d
  cases other
  simp only [mk.injEq]
  exact ⟨year, parts⟩

/-- A December has all the days that can be counted. -/
lemma monthLength_twelve (year : ℕ) : monthLength year 12 = 31 := rfl

/-- The day after a counted day is the next one that is counted, up to the thirty-first.

**Proof sketch.** Within the month the number of the day goes up. At the end of the month the next
month begins, which there is since the month is no December. Behind it no more than three days are
counted, fewer than any month has. -/
lemma IsCounted.next {year month day : ℕ} (h : IsCounted year month day d) (bound : day < 31)
    (months : month ≤ 12) : IsCounted year month (day + 1) d.next := by
  obtain ⟨rfl, within, beyond⟩ := h
  have short := le_monthLength d.year month
  have nextShort := le_monthLength d.year (month + 1)
  rcases Nat.lt_trichotomy day (monthLength d.year month) with less | same | more
  · obtain ⟨rfl, rfl⟩ := within less.le
    rw [Date.next, dif_pos less]
    exact ⟨rfl, fun _ => ⟨rfl, rfl⟩, fun more => absurd more (by omega)⟩
  · obtain ⟨rfl, rfl⟩ := within same.le
    have early : d.month < 12 := by
      refine lt_of_le_of_ne months fun december => ?_
      rw [december, monthLength_twelve] at same
      omega
    rw [Date.next, dif_neg (by omega), dif_pos early]
    exact ⟨rfl, fun less => absurd less (by omega), fun _ => ⟨rfl, by simp [firstOfMonth, same]⟩⟩
  · obtain ⟨hmonth, hday⟩ := beyond more
    have inside : d.day < monthLength d.year d.month := by rw [hmonth]; omega
    rw [Date.next, dif_pos inside]
    exact ⟨rfl, fun less => absurd less (by omega), fun _ => ⟨hmonth, by simp only [hday]; omega⟩⟩

/-- **The days after the first of a month** are counted from it. -/
lemma isCounted_plusDays {year month day : ℕ} (one_le : 1 ≤ month) (le_twelve : month ≤ 12)
    (bound : day < 31) :
    IsCounted year month (day + 1) ((firstOfMonth year month one_le le_twelve).plusDays day) := by
  induction day with
  | zero =>
    have long := le_monthLength year month
    exact ⟨rfl, fun _ => ⟨rfl, rfl⟩, fun short => absurd short (by omega)⟩
  | succ day ih => exact (ih (by omega)).next bound le_twelve

/-- **The count never fails** in a year of four digits: the first of the month is there, and so is
the day that is counted from it. -/
lemma exists_plusDays? {year month day : ℕ} (years : year ≤ 9999) (one_le : 1 ≤ month)
    (le_twelve : month ≤ 12) (one_le_day : 1 ≤ day) (day_le : day ≤ 31) :
    ∃ first d, ofParts? year month 1 = some first ∧ first.plusDays? (day - 1) = some d ∧
      IsCounted year month day d := by
  have long := le_monthLength year month
  have parts : ofParts? year month 1 = some (firstOfMonth year month one_le le_twelve) := by
    rw [ofParts?, dif_pos ⟨one_le, le_twelve, le_rfl, by omega, years.trans (by decide)⟩]
    rfl
  have counted := @isCounted_plusDays year month (day - 1) one_le le_twelve (by omega)
  rw [Nat.sub_add_cancel one_le_day] at counted
  refine ⟨_, _, parts, if_pos ?_, counted⟩
  rw [counted.year_eq]
  exact years.trans (by decide)

/-! ## Forms -/

/-- The text is put together from digits for the year, the month and the day, with dashes between
them. The day may be missing, and with it the month: then a single digit stands for the first. -/
inductive HasForm : Text → Text → Text → Text → Prop
  | year {year : Text} : year.length = 4 → HasForm year year ['1'] ['1']
  | month {year month : Text} : year.length = 4 → month.length = 2 →
      HasForm (year ++ '-' :: month) year month ['1']
  | day {year month day : Text} : year.length = 4 → month.length = 2 → day.length = 2 →
      HasForm (year ++ '-' :: month ++ '-' :: day) year month day

/-- No form takes more than ten characters. -/
lemma HasForm.length_le {year month day : Text} (form : HasForm t year month day) :
    t.length ≤ 10 := by
  cases form <;> simp [*]

/-- A text in one of the forms is read by its parts. -/
lemma read?_of_hasForm {year month day : Text} (h : HasForm (trim t) year month day) :
    read? t = ofDigits? year month day := by
  rw [read?]
  generalize trim t = written at h
  cases h with
  | year hyear =>
    obtain ⟨y₁, y₂, y₃, y₄, rfl⟩ := List.length_eq_four.mp hyear
    rfl
  | month hyear hmonth =>
    obtain ⟨y₁, y₂, y₃, y₄, rfl⟩ := List.length_eq_four.mp hyear
    obtain ⟨m₁, m₂, rfl⟩ := List.length_eq_two.mp hmonth
    rfl
  | day hyear hmonth hday =>
    obtain ⟨y₁, y₂, y₃, y₄, rfl⟩ := List.length_eq_four.mp hyear
    obtain ⟨m₁, m₂, rfl⟩ := List.length_eq_two.mp hmonth
    obtain ⟨d₁, d₂, rfl⟩ := List.length_eq_two.mp hday
    rfl

/-- **A text is read by the parts of its form**, and not without a form. -/
lemma read?_eq_some_iff : read? t = some d ↔
    ∃ year month day, HasForm (trim t) year month day ∧ ofDigits? year month day = some d := by
  constructor
  · intro h
    rw [read?] at h
    split at h
    · next y₁ y₂ y₃ y₄ written =>
      have form : HasForm [y₁, y₂, y₃, y₄] [y₁, y₂, y₃, y₄] ['1'] ['1'] := .year rfl
      exact ⟨_, _, _, written ▸ form, h⟩
    · next y₁ y₂ y₃ y₄ m₁ m₂ written =>
      have form : HasForm [y₁, y₂, y₃, y₄, '-', m₁, m₂] [y₁, y₂, y₃, y₄] [m₁, m₂] ['1'] :=
        @HasForm.month [y₁, y₂, y₃, y₄] [m₁, m₂] rfl rfl
      exact ⟨_, _, _, written ▸ form, h⟩
    · next y₁ y₂ y₃ y₄ m₁ m₂ d₁ d₂ written =>
      have form : HasForm [y₁, y₂, y₃, y₄, '-', m₁, m₂, '-', d₁, d₂]
          [y₁, y₂, y₃, y₄] [m₁, m₂] [d₁, d₂] :=
        @HasForm.day [y₁, y₂, y₃, y₄] [m₁, m₂] [d₁, d₂] rfl rfl rfl
      exact ⟨_, _, _, written ▸ form, h⟩
    · cases h
  · rintro ⟨year, month, day, form, h⟩
    rw [read?_of_hasForm form, h]

/-! ## Written dates -/

/-- The text writes the year in four digits, and the month and the day in two digits each, with
dashes between them. The day may be missing, and with it the month: then they are the first. -/
inductive WritesParts : Text → ℕ → ℕ → ℕ → Prop
  | year {year : ℕ} : year ≤ 9999 → WritesParts (lastDigits 4 year) year 1 1
  | month {year month : ℕ} : year ≤ 9999 → 1 ≤ month → month ≤ 12 →
      WritesParts (lastDigits 4 year ++ '-' :: lastDigits 2 month) year month 1
  | day {year month day : ℕ} : year ≤ 9999 → 1 ≤ month → month ≤ 12 → 1 ≤ day → day ≤ 31 →
      WritesParts (lastDigits 4 year ++ '-' :: lastDigits 2 month ++ '-' :: lastDigits 2 day)
        year month day

/-- The parts of a date lie in their ranges. -/
lemma WritesParts.bounds {year month day : ℕ} (h : WritesParts t year month day) :
    year ≤ 9999 ∧ (1 ≤ month ∧ month ≤ 12) ∧ 1 ≤ day ∧ day ≤ 31 := by
  cases h <;> omega

/-- Digits of a width are a numeral of this width. -/
lemma lastDigits_number_of_length {width : ℕ} (length : t.length = width)
    (digits : ∀ c ∈ t, c.isDigit = true) :
    number t < 10 ^ width ∧ lastDigits width (number t) = t :=
  length ▸ lastDigits_number digits

/-- **A text writes the parts of a date** if it has a form in digits that stand for them. -/
lemma writesParts_iff {y m n : ℕ} : WritesParts t y m n ↔
    ∃ year month day, HasForm t year month day ∧ (∀ c ∈ year ++ month ++ day, c.isDigit = true) ∧
      (number year = y ∧ number month = m ∧ number day = n) ∧ (1 ≤ m ∧ m ≤ 12) ∧ 1 ≤ n ∧
      n ≤ 31 := by
  have one : ∀ c ∈ ['1'], c.isDigit = true := List.forall_mem_singleton.mpr rfl
  simp only [List.forall_mem_append]
  constructor
  · intro h
    have digits (width n : ℕ) := (lastDigits_spec width n).2
    cases h with
    | year years =>
      exact ⟨_, _, _, .year (lastDigits_spec 4 y).1, ⟨⟨digits 4 y, one⟩, one⟩,
        ⟨number_lastDigits (by omega), rfl, rfl⟩, by omega⟩
    | month years one_le le_twelve =>
      exact ⟨_, _, _, .month (lastDigits_spec 4 y).1 (lastDigits_spec 2 m).1,
        ⟨⟨digits 4 y, digits 2 m⟩, one⟩,
        ⟨number_lastDigits (by omega), number_lastDigits (by omega), rfl⟩, by omega⟩
    | day years one_le le_twelve one_le_day day_le =>
      exact ⟨_, _, _, .day (lastDigits_spec 4 y).1 (lastDigits_spec 2 m).1 (lastDigits_spec 2 n).1,
        ⟨⟨digits 4 y, digits 2 m⟩, digits 2 n⟩,
        ⟨number_lastDigits (by omega), number_lastDigits (by omega), number_lastDigits (by omega)⟩,
        by omega⟩
  · rintro ⟨year, month, day, form, ⟨⟨yearDigits, monthDigits⟩, dayDigits⟩, ⟨rfl, rfl, rfl⟩,
      ⟨one_le, le_twelve⟩, one_le_day, day_le⟩
    cases form with
    | year hyear =>
      obtain ⟨bound, years⟩ := lastDigits_number_of_length hyear yearDigits
      have writes : WritesParts (lastDigits 4 (number t)) (number t) 1 1 := .year (by omega)
      rwa [years] at writes
    | month hyear hmonth =>
      obtain ⟨bound, years⟩ := lastDigits_number_of_length hyear yearDigits
      obtain ⟨-, months⟩ := lastDigits_number_of_length hmonth monthDigits
      have writes := @WritesParts.month (number year) _ (by omega) one_le le_twelve
      rwa [years, months] at writes
    | day hyear hmonth hday =>
      obtain ⟨bound, years⟩ := lastDigits_number_of_length hyear yearDigits
      obtain ⟨-, months⟩ := lastDigits_number_of_length hmonth monthDigits
      obtain ⟨-, days⟩ := lastDigits_number_of_length hday dayDigits
      have writes :=
        @WritesParts.day (number year) _ _ (by omega) one_le le_twelve one_le_day day_le
      rwa [years, months, days] at writes

/-! ## Reading -/

/-- The days that are counted in a year of four digits. -/
lemma counted?_eq_some_iff {y m n : ℕ} (years : y ≤ 9999) : counted? y m n = some d ↔
    (1 ≤ m ∧ m ≤ 12 ∧ 1 ≤ n ∧ n ≤ 31) ∧ IsCounted y m n d := by
  rw [counted?]
  by_cases bounds : 1 ≤ m ∧ m ≤ 12 ∧ 1 ≤ n ∧ n ≤ 31
  · obtain ⟨first, other, parts, later, counted⟩ :=
      exists_plusDays? years bounds.1 bounds.2.1 bounds.2.2.1 bounds.2.2.2
    rw [if_pos bounds, parts, Option.bind_some, later, and_iff_right bounds, Option.some_inj]
    exact ⟨fun same => same ▸ counted, fun h => counted.unique h⟩
  · rw [if_neg bounds]
    exact iff_of_false nofun fun h => bounds h.1

/-- Digits are read by counting, and nothing else is. -/
lemma ofDigits?_eq_some_iff {year month day : Text} : ofDigits? year month day = some d ↔
    (∀ c ∈ year ++ month ++ day, c.isDigit = true) ∧
      counted? (number year) (number month) (number day) = some d := by
  rw [ofDigits?, Option.ite_none_right_eq_some, List.all_eq_true]

/-- The year of a form is written in four digits. -/
lemma HasForm.number_year_le {year month day : Text} (form : HasForm t year month day)
    (digits : ∀ c ∈ year ++ month ++ day, c.isDigit = true) : number year ≤ 9999 := by
  have length : year.length = 4 := by cases form <;> assumption
  rw [List.forall_mem_append, List.forall_mem_append] at digits
  have bound := (lastDigits_number_of_length length digits.1.1).1
  omega

/-- **Which texts are read, and as which dates.** A text is read if, apart from blanks at its ends,
it writes a year in four digits, perhaps with a month from `01` to `12`, and perhaps with a day from
`01` to `31` behind that. The date is the day that is counted from the first of the month. For such
a text both steps of the count succeed. -/
theorem read?_iff_writesParts (t : Text) :
    (∀ d, read? t = some d ↔
      ∃ year month day, WritesParts (trim t) year month day ∧ IsCounted year month day d) ∧
      ∀ year month day, WritesParts (trim t) year month day →
        ∃ first d, ofParts? year month 1 = some first ∧ first.plusDays? (day - 1) = some d ∧
          read? t = some d ∧ IsCounted year month day d := by
  have reads (d : Date) : read? t = some d ↔
      ∃ year month day, WritesParts (trim t) year month day ∧ IsCounted year month day d := by
    rw [read?_eq_some_iff]
    constructor
    · rintro ⟨year, month, day, form, h⟩
      obtain ⟨digits, counted⟩ := ofDigits?_eq_some_iff.mp h
      obtain ⟨⟨one_le, le_twelve, days⟩, counted⟩ :=
        (counted?_eq_some_iff (form.number_year_le digits)).mp counted
      exact ⟨_, _, _, writesParts_iff.mpr
        ⟨year, month, day, form, digits, ⟨rfl, rfl, rfl⟩, ⟨one_le, le_twelve⟩, days⟩, counted⟩
    · rintro ⟨y, m, n, writes, counted⟩
      obtain ⟨year, month, day, form, digits, ⟨rfl, rfl, rfl⟩, months, days⟩ :=
        writesParts_iff.mp writes
      refine ⟨year, month, day, form, ofDigits?_eq_some_iff.mpr ⟨digits, ?_⟩⟩
      exact (counted?_eq_some_iff (form.number_year_le digits)).mpr
        ⟨⟨months.1, months.2, days⟩, counted⟩
  refine ⟨reads, fun year month day writes => ?_⟩
  obtain ⟨years, months, days⟩ := writes.bounds
  obtain ⟨first, d, parts, later, counted⟩ :=
    exists_plusDays? years months.1 months.2 days.1 days.2
  exact ⟨first, d, parts, later, (reads d).mpr ⟨year, month, day, writes, counted⟩, counted⟩

/-- A day that February does not have in a leap year, between two kinds of blanks. -/
theorem read?_iff_writesParts_rolled :
    let t := "\u2003 2020-02-31\t".toList
    WritesParts (trim t) 2020 2 31 ∧
      ∃ first d, ofParts? 2020 2 1 = some first ∧ first.plusDays? 30 = some d ∧
        read? t = some d ∧ d.year = 2020 ∧ d.month = 3 ∧ d.day = 2 := by
  intro t
  have trimmed : trim t = lastDigits 4 2020 ++ '-' :: lastDigits 2 2 ++ '-' :: lastDigits 2 31 := by
    decide +kernel
  have writes : WritesParts (trim t) 2020 2 31 := by
    rw [trimmed]
    exact .day (by decide) (by decide) (by decide) (by decide) (by decide)
  obtain ⟨first, d, parts, later, read, counted⟩ :=
    (read?_iff_writesParts t).2 2020 2 31 writes
  exact ⟨writes, first, d, parts, later, read, counted.year_eq, counted.beyond (by decide)⟩

end Date

end Backlog
