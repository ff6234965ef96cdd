import Backlog.Date.Basic
import Backlog.Text.Blank

set_option relaxedAutoImplicit false
set_option autoImplicit false

/-!
# Written dates

A date is written `yyyy-mm-dd`, and a reader may leave out the day, or the month and the day, for
the first. The days of every month are counted up to `31`: those beyond its end are days of the
next month, so that `2021-02-30` is the second of March.

## Main definitions

* `Backlog.Date.counted?` — the day with a given number, counted from the first of a month.
* `Backlog.Date.read?` — the date that a text writes.
* `Backlog.Date.written` — the full form of a date.
-/

namespace Backlog

open Text

/-! ## Numbers -/

/-- The number that decimal digits write. -/
def number (digits : Text) : Nat := digits.foldl (fun n c => 10 * n + (c.toNat - '0'.toNat)) 0

/-- The last `width` decimal digits of a number, leading zeros included. -/
def lastDigits : Nat → Nat → Text
  | 0, _ => []
  | width + 1, n => lastDigits width (n / 10) ++ [Nat.digitChar (n % 10)]

namespace Date

/-! ## Reading -/

/-- Day `day` counted from the first of the month, for months `1` to `12` and days `1` to `31`. -/
def counted? (year month day : Nat) : Option Date :=
  if 1 ≤ month ∧ month ≤ 12 ∧ 1 ≤ day ∧ day ≤ 31 then
    (ofParts? year month 1).bind (·.plusDays? (day - 1))
  else none

/-- The date of a year, month and day written in ASCII digits. -/
def ofDigits? (year month day : Text) : Option Date :=
  if (year ++ month ++ day).all Char.isDigit then
    counted? (number year) (number month) (number day)
  else none

/-- The date that the text writes as `yyyy`, `yyyy-mm` or `yyyy-mm-dd`, perhaps between blanks. -/
def read? (t : Text) : Option Date :=
  match trim t with
  | [y₁, y₂, y₃, y₄] => ofDigits? [y₁, y₂, y₃, y₄] ['1'] ['1']
  | [y₁, y₂, y₃, y₄, '-', m₁, m₂] => ofDigits? [y₁, y₂, y₃, y₄] [m₁, m₂] ['1']
  | [y₁, y₂, y₃, y₄, '-', m₁, m₂, '-', d₁, d₂] => ofDigits? [y₁, y₂, y₃, y₄] [m₁, m₂] [d₁, d₂]
  | _ => none

/-! ## Writing -/

/-- The date as `yyyy-mm-dd`. -/
def written (d : Date) : Text :=
  lastDigits 4 d.year ++ '-' :: lastDigits 2 d.month ++ '-' :: lastDigits 2 d.day

end Date

end Backlog
