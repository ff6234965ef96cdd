import Backlog.Text.Basic
import Backlog.Text.CharRanges

set_option relaxedAutoImplicit false
set_option autoImplicit false

/-!
# Blank characters, trimming and words

A character is blank if it has Unicode's property White_Space: tabs, line ends, the spaces of all
widths and the no-break spaces, but no character of width zero.

## Main definitions

* `Backlog.Text.isBlank` — the class as a test.
* `Backlog.Text.trimStart`, `Backlog.Text.trimEnd`, `Backlog.Text.trim` — a text without its blanks
  at the ends.
* `Backlog.Text.words` — the parts of a text between blanks.
-/

namespace Backlog.Text

/-- The code points with the property White_Space. -/
def blankRanges : CharRanges :=
  [(0x09, 0x0D), (0x20, 0x20), (0x85, 0x85), (0xA0, 0xA0), (0x1680, 0x1680), (0x2000, 0x200A),
   (0x2028, 0x2029), (0x202F, 0x202F), (0x205F, 0x205F), (0x3000, 0x3000)]

/-- A character that separates words. -/
def isBlank (c : Char) : Bool := blankRanges.covers c

/-! ## Trimming -/

/-- The text without the blanks it begins with. -/
def trimStart (t : Text) : Text := t.dropWhile isBlank

/-- The text without the blanks it ends with. -/
def trimEnd (t : Text) : Text := (t.reverse.dropWhile isBlank).reverse

/-- The text without the blanks at either end. -/
def trim (t : Text) : Text := trimEnd (trimStart t)

/-! ## Words -/

/-- The maximal parts without blanks, in order. -/
def words (t : Text) : List Text := (t.splitOnP isBlank).filter (!·.isEmpty)

end Backlog.Text
