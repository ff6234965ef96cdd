import Backlog.Text.Basic

set_option relaxedAutoImplicit false
set_option autoImplicit false

/-!
# UTF-8

Files and input lines come as bytes and are texts if the bytes are UTF-8.

## Main definitions

* `Backlog.Text.ofUtf8?` — the text that bytes spell, if they spell one.
* `Backlog.Text.byteLength` — the number of bytes that spell a text.
* `Backlog.Text.lastBytes?` — the end of a text that takes a given number of bytes.
-/

namespace Backlog.Text

/-- The text spelled by the bytes, if they are well-formed UTF-8. -/
def ofUtf8? (bytes : List UInt8) : Option Text :=
  (String.fromUTF8? ⟨bytes.toArray⟩).map String.toList

/-- The bytes that spell the text. -/
def toUtf8 (t : Text) : List UInt8 := t.flatMap String.utf8EncodeChar

/-- The number of bytes that spell the text. -/
def byteLength (t : Text) : Nat := t.foldr (fun c n => c.utf8Size + n) 0

/-- The characters at the start of the text that together take exactly `n` bytes, if a character
ends there. -/
def firstBytes? : Nat → Text → Option Text
  | 0, _ => some []
  | _ + 1, [] => none
  | n + 1, c :: t => if c.utf8Size ≤ n + 1 then (firstBytes? (n + 1 - c.utf8Size) t).map (c :: ·)
    else none

/-- The characters at the end of the text that together take exactly `n` bytes, if a character
begins there. -/
def lastBytes? (n : Nat) (t : Text) : Option Text := (firstBytes? n t.reverse).map List.reverse

end Backlog.Text
