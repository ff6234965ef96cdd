import Backlog.Text.Basic
import Backlog.Text.Cased
import Backlog.Text.CaseIgnorable
import Backlog.Text.CaseTable

set_option relaxedAutoImplicit false
set_option autoImplicit false

/-!
# Lower case

Lower case by Unicode's full mapping. Every character is mapped by itself but one: capital sigma
has the small form `ς` at the end of a word and `σ` elsewhere. It stands at the end of a word if a
cased character comes before it and none after it, where case-ignorable characters in between do
not count.

## Main definitions

* `Backlog.Text.endsWord` — the condition for the final sigma.
* `Backlog.Text.lower` — the mapping on texts.
-/

namespace Backlog.Text

/-- The first character that is not case-ignorable is cased. -/
def meetsCased (t : Text) : Bool := ((t.dropWhile isCaseIgnorable).head?.map isCased).getD false

/-- Between the text `before`, read backwards, and the text `after` a word ends. -/
def endsWord (before after : Text) : Bool := meetsCased before && !meetsCased after

/-- The small form of `c` between `before`, read backwards, and `after`. -/
def lowerChar (before : Text) (c : Char) (after : Text) : Text :=
  if c = 'Σ' then [if endsWord before after then 'ς' else 'σ']
  else if c = 'İ' then ['i', '\u0307']
  else [smallLetter c]

/-- The small form of a text that follows the text `before`, which is read backwards. -/
def lowerAfter (before : Text) : Text → Text
  | [] => []
  | c :: after => lowerChar before c after ++ lowerAfter (c :: before) after

/-- The text in lower case. -/
def lower (t : Text) : Text := lowerAfter [] t

end Backlog.Text
