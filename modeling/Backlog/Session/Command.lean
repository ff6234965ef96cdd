import Backlog.Date.Threshold
import Backlog.Text.Blank
import Backlog.Todo.Order

set_option relaxedAutoImplicit false
set_option autoImplicit false

/-!
# Commands

A command is a line whose first word says what to do and whose second word, if the command takes
one, says with what. Further words do not count.

## Main definitions

* `Backlog.Command` — the commands.
* `Backlog.Refusal` — the reasons why a line is no command, with `message`.
* `Backlog.Command.read` — the command of a line.
-/

namespace Backlog

open Text

/-- What a user can ask for. -/
inductive Command
  | exit
  | showAll
  | showImportant
  | showUser (start : Text)
  | sort (key : SortKey)
  | showSince (threshold : Date)
deriving DecidableEq

/-- Why a line is no command. -/
inductive Refusal
  | unknownCommand
  | invalidSortKey
  | invalidDate
deriving DecidableEq

/-- The wording of a refusal. -/
def Refusal.message : Refusal → Text
  | .unknownCommand => "wrong command".toList
  | .invalidSortKey => "wrong parameter, use parameters 'importance', 'user' or 'date'".toList
  | .invalidDate =>
    "Please, write parameter in correct format yyyy[-mm-dd] with correct values".toList

/-! ## Reading -/

/-- The key that a parameter names. -/
def SortKey.read (name : Text) : Except Refusal SortKey :=
  (SortKey.ofName? name).elim (.error .invalidSortKey) .ok

/-- The threshold that a parameter writes. -/
def Date.readThreshold (t : Text) : Except Refusal Date :=
  (Date.threshold? t).elim (.error .invalidDate) .ok

namespace Command

/-- The command of an action and its parameter. Where the parameter is missing it counts as the
empty text, which starts every name and is neither a sort key nor a date. -/
def ofWords (action parameter : Text) : Except Refusal Command :=
  if action = "exit".toList then .ok .exit
  else if action = "show".toList then .ok .showAll
  else if action = "important".toList then .ok .showImportant
  else if action = "user".toList then .ok (.showUser parameter)
  else if action = "sort".toList then (SortKey.read parameter).map .sort
  else if action = "date".toList then (Date.readThreshold parameter).map .showSince
  else .error .unknownCommand

/-- The command that a line gives. -/
def read (line : Text) : Except Refusal Command :=
  ofWords ((words line)[0]?.getD []) ((words line)[1]?.getD [])

end Command

end Backlog
