import Backlog.Remark.Head
import Backlog.Text.Line

set_option relaxedAutoImplicit false
set_option autoImplicit false

/-!
# The remarks of a text

A line has at most one remark. It starts at the first place of the line where a head stands and
goes on to the end of the line, terminator included.

## Main definitions

* `Backlog.Remark.inContent?` — the part of a line's content from the first head on.
* `Backlog.Remark.inLine?` — the remark of a line.
* `Backlog.Remark.inText` — the remarks of a text, in order.
-/

namespace Backlog.Remark

open Text

/-- The longest end of the text that begins with a head. -/
def inContent? : Text → Option Text
  | [] => none
  | c :: rest => if (freeText? (c :: rest)).isSome then some (c :: rest) else inContent? rest

/-- The remark of a line, with the line's terminator. -/
def inLine? (line : Text) : Option Text :=
  (inContent? (content line)).map (· ++ line.drop (content line).length)

/-- The remarks of the lines of a text. -/
def inText (t : Text) : List Text := (lines t).filterMap inLine?

end Backlog.Remark
