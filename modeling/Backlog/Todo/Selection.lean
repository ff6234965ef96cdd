import Backlog.Text.Lowercase
import Backlog.Todo.Basic

set_option relaxedAutoImplicit false
set_option autoImplicit false

/-!
# Selections of todos

A selection keeps the todos that meet a condition, in their order.

## Main definitions

* `Backlog.Todo.belongsTo` — the user of a todo begins with a given text.
* `Backlog.Todo.isSince` — a todo has a day, and not before a given one.
* `Backlog.importantOnes`, `Backlog.thoseOf`, `Backlog.thoseSince` — the selections.
-/

namespace Backlog

open Text

namespace Todo

/-- The user begins with `start`, when both are in lower case. -/
def belongsTo (start : Text) (todo : Todo) : Bool := (lower start).isPrefixOf (lower todo.user)

/-- The todo has a day, and it is not before `threshold`. -/
def isSince (threshold : Date) (todo : Todo) : Bool := todo.day?.any (threshold ≤ ·)

end Todo

/-- The important todos. -/
def importantOnes (todos : List Todo) : List Todo := todos.filter Todo.isImportant

/-- The todos of users whose name begins with `start`. -/
def thoseOf (start : Text) (todos : List Todo) : List Todo := todos.filter (Todo.belongsTo start)

/-- The todos with a day that is not before `threshold`. -/
def thoseSince (threshold : Date) (todos : List Todo) : List Todo :=
  todos.filter (Todo.isSince threshold)

end Backlog
