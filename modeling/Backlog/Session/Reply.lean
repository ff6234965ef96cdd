import Backlog.Session.Command
import Backlog.Table.Layout
import Backlog.Todo.Selection

set_option relaxedAutoImplicit false
set_option autoImplicit false

/-!
# Replies

A session holds the todos in an order and answers one line after another. Commands that sort leave
the todos in the new order for the lines to come; all others, and lines that are refused, leave
them as they are.

## Main definitions

* `Backlog.Reply` — what a line is answered with.
* `Backlog.Command.arrange`, `Backlog.Command.reply` — the order in which a command leaves the todos
  and its reply.
* `Backlog.Session.answer` — the same for a line.
* `Backlog.Session.steps`, `Backlog.Session.after` — the answers to a list of lines, and the todos
  they leave.
-/

namespace Backlog

/-- The answer to a line: some todos, the end of the session, or a refusal. -/
inductive Reply
  | listing (shown : List Todo)
  | farewell
  | refused (why : Refusal)
deriving DecidableEq

namespace Command

/-- The key by which a command puts the todos in order before it replies, if it does. -/
def sortKey? : Command → Option SortKey
  | .exit => none
  | .showAll => none
  | .showImportant => some .importance
  | .showUser _ => none
  | .sort key => some key
  | .showSince _ => some .date

/-- The reply to a command about todos in their final order. -/
def reply (todos : List Todo) : Command → Reply
  | .exit => .farewell
  | .showAll => .listing todos
  | .showImportant => .listing (importantOnes todos)
  | .showUser start => .listing (thoseOf start todos)
  | .sort _ => .listing todos
  | .showSince threshold => .listing (thoseSince threshold todos)

/-- The order in which a command leaves the todos. -/
def arrange (todos : List Todo) (command : Command) : List Todo :=
  match command.sortKey? with
  | some key => key.sort todos
  | none => todos

end Command

namespace Session

/-- The order in which a line leaves the todos, and its reply. -/
def answer (todos : List Todo) (line : Text) : List Todo × Reply :=
  match Command.read line with
  | .ok command => (command.arrange todos, command.reply (command.arrange todos))
  | .error why => (todos, .refused why)

/-- The order and the reply of every line in turn. -/
def steps (todos : List Todo) : List Text → List (List Todo × Reply)
  | [] => []
  | line :: rest => answer todos line :: steps (answer todos line).1 rest

/-- The order in which the lines leave the todos, given one by one. -/
def after (todos : List Todo) (lines : List Text) : List Todo :=
  lines.foldl (fun current line => (answer current line).1) todos

end Session

end Backlog
