import Backlog.Text.Blank
import Backlog.Text.Utf8

set_option relaxedAutoImplicit false
set_option autoImplicit false

/-!
# The fields of a free text

A free text is divided by semicolons into user, date and comment. With fewer than two of them the
date is missing. A text with one semicolon gives the user before it, and its comment is the whole
text again, unless a full date stands right before the semicolon: then the comment is only what
follows.

## Main definitions

* `Backlog.Fields` — the three fields.
* `Backlog.endsInFullDate` — a full date stands at the end of a text.
* `Backlog.Fields.ofFreeText` — the division.
-/

namespace Backlog

open Text

/-- Who is to do something, from when, and what. -/
structure Fields where
  user : Text
  date : Text
  comment : Text
deriving DecidableEq

/-- The text has the form of a full date, digits `dddd-dd-dd`. -/
def isFullDate : Text → Bool
  | [y₁, y₂, y₃, y₄, '-', m₁, m₂, '-', d₁, d₂] =>
    [y₁, y₂, y₃, y₄, m₁, m₂, d₁, d₂].all Char.isDigit
  | _ => false

/-- The last ten bytes of the text, apart from blanks at its end, have the form of a full date. -/
def endsInFullDate (t : Text) : Bool := ((lastBytes? 10 (trimEnd t)).map isFullDate).getD false

/-- The fields of a free text, each without blanks at its ends. -/
def Fields.ofFreeText (free : Text) : Fields :=
  match cutAt? ';' free with
  | none => ⟨[], [], trim free⟩
  | some (user, tail) =>
    match cutAt? ';' tail with
    | some (date, comment) => ⟨trim user, trim date, trim comment⟩
    | none => ⟨trim user, [], trim (if endsInFullDate user then tail else free)⟩

end Backlog
