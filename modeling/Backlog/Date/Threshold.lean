import Backlog.Date.Written
import Backlog.Text.DecimalDigit

set_option relaxedAutoImplicit false
set_option autoImplicit false

/-!
# Thresholds

A threshold is a date that a command gives. Its form is checked on its own, more strictly in that
no blanks may surround it and less strictly in that decimal digits of any script pass where any
digit may stand; the date is then read as everywhere.

## Main definitions

* `Backlog.Date.hasThresholdForm` — the check of the form.
* `Backlog.Date.threshold?` — the date of a threshold.
-/

namespace Backlog.Date

open Text

/-- Two characters that write a month from `01` to `12`. -/
def isMonthForm : Char → Char → Bool
  | '0', c => '1' ≤ c && c ≤ '9'
  | '1', c => '0' ≤ c && c ≤ '2'
  | _, _ => false

/-- Two characters that write a day from `01` to `31`, where the second of a day from the tenth to
the twenty-ninth may be a decimal digit of any script. -/
def isDayForm : Char → Char → Bool
  | '0', c => '1' ≤ c && c ≤ '9'
  | '1', c => isDecimalDigit c
  | '2', c => isDecimalDigit c
  | '3', c => c == '0' || c == '1'
  | _, _ => false

/-- The text has the form `yyyy`, `yyyy-mm` or `yyyy-mm-dd`. -/
def hasThresholdForm : Text → Bool
  | [y₁, y₂, y₃, y₄] => [y₁, y₂, y₃, y₄].all isDecimalDigit
  | [y₁, y₂, y₃, y₄, '-', m₁, m₂] => [y₁, y₂, y₃, y₄].all isDecimalDigit && isMonthForm m₁ m₂
  | [y₁, y₂, y₃, y₄, '-', m₁, m₂, '-', d₁, d₂] =>
    [y₁, y₂, y₃, y₄].all isDecimalDigit && isMonthForm m₁ m₂ && isDayForm d₁ d₂
  | _ => false

/-- The date that the text gives as a threshold. -/
def threshold? (t : Text) : Option Date := if hasThresholdForm t then read? t else none

end Backlog.Date
