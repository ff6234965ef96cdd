import Backlog.Session.Reply
import Backlog.Text.Line
import Backlog.Text.Utf8

set_option relaxedAutoImplicit false
set_option autoImplicit false

/-!
# Transcripts

A session greets, reads lines from its input and writes a reply to each until a line asks it to
end or the input ends. It breaks off at a line that is not UTF-8.

## Main definitions

* `Backlog.Session.inputLines` — the lines of an input, as bytes.
* `Backlog.Transcript` — what a session writes, the order it leaves, and whether it broke off.
* `Backlog.Session.converse` — the session over lines.
* `Backlog.Session.run` — the session over an input.
-/

namespace Backlog

open Text

/-! ## Input -/

namespace Session

/-- A line without its terminator, a line feed with or without a carriage return before it. -/
def withoutTerminator (line : List UInt8) : List UInt8 :=
  if line.getLast? = some 0x0A then withoutLast 0x0D line.dropLast else line

/-- The lines of an input, without terminators. -/
def inputLines (input : List UInt8) : List (List UInt8) :=
  (cutAfter 0x0A input).map withoutTerminator

end Session

/-! ## Output -/

/-- The first line of every session. -/
def greeting : Text := "Please, write your command!\n".toList

/-- The text in red on a terminal, if the session uses colours. -/
def reddened (coloured : Bool) (t : Text) : Text :=
  if coloured then "\x1b[31m".toList ++ t ++ "\x1b[0m".toList else t

/-- What is written for a reply. -/
def Reply.written (coloured : Bool) : Reply → Text
  | .listing shown => Table.render shown ++ ['\n']
  | .farewell => []
  | .refused why => reddened coloured why.message ++ ['\n']

/-! ## Sessions -/

/-- What a session wrote, the todos in the order it left them, and whether its input was UTF-8 as
far as it was read. -/
structure Transcript where
  output : Text
  todos : List Todo
  complete : Bool
deriving DecidableEq

namespace Session

/-- The session over lines, where `none` stands for a line that is not UTF-8. -/
def converse (coloured : Bool) (todos : List Todo) : List (Option Text) → Transcript
  | [] => ⟨[], todos, true⟩
  | none :: _ => ⟨[], todos, false⟩
  | some line :: rest =>
    match answer todos line with
    | (todos, .farewell) => ⟨[], todos, true⟩
    | (todos, reply) =>
      let later := converse coloured todos rest
      { later with output := reply.written coloured ++ later.output }

/-- The session over an input. -/
def run (coloured : Bool) (todos : List Todo) (input : List UInt8) : Transcript :=
  let transcript := converse coloured todos ((inputLines input).map ofUtf8?)
  { transcript with output := greeting ++ transcript.output }

end Session

end Backlog
