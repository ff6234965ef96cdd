set_option relaxedAutoImplicit false
set_option autoImplicit false

/-!
# Calendar dates

The days of the Gregorian calendar, continued backwards to the year `0`, in their order.

## Main definitions

* `Backlog.monthLength` — the number of days of a month.
* `Backlog.Date` — a day of a month of a year.
* `Backlog.Date.next`, `Backlog.Date.plusDays` — the days that follow a day.
* `Backlog.Date.ofParts?`, `Backlog.Date.plusDays?` — the same up to the last year of the calendar.
-/

namespace Backlog

/-! ## Months and years -/

/-- Every fourth year is a leap year, but of the full centuries only every fourth. -/
def isLeapYear (year : Nat) : Bool := year % 4 == 0 && (year % 100 != 0 || year % 400 == 0)

/-- The number of days of a month, where January is month `1`. -/
def monthLength (year month : Nat) : Nat :=
  if month = 2 then if isLeapYear year then 29 else 28
  else if month = 4 ∨ month = 6 ∨ month = 9 ∨ month = 11 then 30
  else 31

/-- No month is shorter than four weeks. -/
theorem le_monthLength (year month : Nat) : 28 ≤ monthLength year month := by
  unfold monthLength
  split
  · split <;> decide
  · split <;> decide

/-- No month has more than thirty-one days. -/
theorem monthLength_le (year month : Nat) : monthLength year month ≤ 31 := by
  unfold monthLength
  split
  · split <;> decide
  · split <;> decide

/-! ## Dates -/

/-- A day that the calendar has. -/
structure Date where
  year : Nat
  month : Nat
  day : Nat
  one_le_month : 1 ≤ month
  month_le : month ≤ 12
  one_le_day : 1 ≤ day
  day_le : day ≤ monthLength year month
deriving DecidableEq

namespace Date

/-- The first day of a month. -/
def firstOfMonth (year month : Nat) (one_le : 1 ≤ month) (le_twelve : month ≤ 12) : Date :=
  ⟨year, month, 1, one_le, le_twelve, Nat.le_refl 1,
    Nat.le_trans (by decide) (le_monthLength year month)⟩

/-- The day after. -/
def next (d : Date) : Date :=
  if h : d.day < monthLength d.year d.month then
    { d with day := d.day + 1, one_le_day := Nat.le_add_left 1 d.day, day_le := h }
  else if h : d.month < 12 then
    firstOfMonth d.year (d.month + 1) (Nat.le_add_left 1 d.month) h
  else
    firstOfMonth (d.year + 1) 1 (Nat.le_refl 1) (by decide)

/-- The day that comes `n` days later. -/
def plusDays (d : Date) : Nat → Date
  | 0 => d
  | n + 1 => (d.plusDays n).next

/-- The last year of the calendar. -/
def lastYear : Nat := 262142

/-- The day with a number in a month of a year, if the calendar has it. -/
def ofParts? (year month day : Nat) : Option Date :=
  if h : 1 ≤ month ∧ month ≤ 12 ∧ 1 ≤ day ∧ day ≤ monthLength year month ∧ year ≤ lastYear then
    some ⟨year, month, day, h.1, h.2.1, h.2.2.1, h.2.2.2.1⟩
  else none

/-- The day that comes `n` days later, unless the calendar ends before it. -/
def plusDays? (d : Date) (n : Nat) : Option Date :=
  if (d.plusDays n).year ≤ lastYear then some (d.plusDays n) else none

/-- Earlier days come first. -/
def order (a b : Date) : Ordering :=
  (compare a.year b.year).then ((compare a.month b.month).then (compare a.day b.day))

instance : Ord Date := ⟨order⟩

instance : LE Date := ⟨fun a b => (order a b).isLE = true⟩

instance (a b : Date) : Decidable (a ≤ b) := inferInstanceAs (Decidable ((order a b).isLE = true))

end Date

end Backlog
