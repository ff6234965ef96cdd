set_option relaxedAutoImplicit false
set_option autoImplicit false

/-!
# Text

A text is the list of its characters, Unicode scalar values. Lengths count characters, and texts
are compared character by character through their code points, which is also the order of their
UTF-8 forms.

## Main definitions

* `Backlog.Text` — the type.
* `Backlog.Text.cutAt?` — the parts before and after the first occurrence of a character.
* `Backlog.Text.sameButForCase` — equality up to the case of ASCII letters.
-/

namespace Backlog

/-- A text is a list of characters. -/
abbrev Text := List Char

namespace Text

/-- The text before the first `c` and the text after it, if there is a `c`. -/
def cutAt? (c : Char) (t : Text) : Option (Text × Text) :=
  match t.dropWhile (· ≠ c) with
  | [] => none
  | _ :: after => some (t.takeWhile (· ≠ c), after)

/-- The two texts differ at most in the case of ASCII letters. -/
def sameButForCase (s t : Text) : Bool := s.map Char.toLower == t.map Char.toLower

end Text

end Backlog
