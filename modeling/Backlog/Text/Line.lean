import Backlog.Text.Basic

set_option relaxedAutoImplicit false
set_option autoImplicit false

/-!
# Lines

A line runs up to and including a line feed; what follows the last line feed is a line too unless
it is empty. The lines of a text put together are the text.

## Main definitions

* `Backlog.cutAfter` — a list cut behind every occurrence of a separator.
* `Backlog.Text.lines` — the lines of a text, with their terminators.
* `Backlog.Text.content` — a line without its terminator.
-/

namespace Backlog

/-- The list cut behind each `sep`, with no empty piece. -/
def cutAfter {α : Type} [DecidableEq α] (sep : α) (s : List α) : List (List α) :=
  s.foldr (fun a pieces =>
    if a = sep then [a] :: pieces
    else match pieces with
      | [] => [[a]]
      | piece :: others => (a :: piece) :: others) []

/-- The list without its last element, if that is `a`. -/
def withoutLast {α : Type} [DecidableEq α] (a : α) (s : List α) : List α :=
  if s.getLast? = some a then s.dropLast else s

namespace Text

/-- The lines of a text, each with its terminator. -/
def lines (t : Text) : List Text := cutAfter '\n' t

/-- What a line holds: the line without one final line feed, and then without one final carriage
return. A carriage return counts as part of the terminator also where no line feed follows. -/
def content (line : Text) : Text := withoutLast '\r' (withoutLast '\n' line)

end Text

end Backlog
