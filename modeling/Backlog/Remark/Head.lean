import Backlog.Text.Basic

set_option relaxedAutoImplicit false
set_option autoImplicit false

/-!
# The head of a remark

A remark is a comment that begins with the marker `TODO`. Its head is `//`, perhaps one space, the
marker in any mixture of capitals and small letters, and a separator: either spaces, or a colon
with or without spaces on its two sides. What follows the head is free text.

## Main definitions

* `Backlog.Remark.afterMarker?`, `Backlog.Remark.afterSeparator?` — what is left behind the marker
  and behind the separator.
* `Backlog.Remark.freeText?` — the free text of a remark.
-/

namespace Backlog.Remark

open Text

/-- The word that makes a comment a remark. -/
def marker : Text := ['T', 'O', 'D', 'O']

/-- The text behind the marker that it begins with. -/
def afterMarker? (t : Text) : Option Text :=
  if sameButForCase (t.take 4) marker then some (t.drop 4) else none

/-- The text behind the separator that it begins with: all spaces, and a colon with all spaces
behind it. Without a colon there must be a space. -/
def afterSeparator? (t : Text) : Option Text :=
  match t.dropWhile (· = ' ') with
  | ':' :: rest => some (rest.dropWhile (· = ' '))
  | rest => if t.head? = some ' ' then some rest else none

/-- The free text of the remark that the text begins with. -/
def freeText? : Text → Option Text
  | '/' :: '/' :: ' ' :: rest => (afterMarker? rest).bind afterSeparator?
  | '/' :: '/' :: rest => (afterMarker? rest).bind afterSeparator?
  | _ => none

end Backlog.Remark
