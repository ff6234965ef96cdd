import Backlog.Todo.Basic

set_option relaxedAutoImplicit false
set_option autoImplicit false

/-!
# Written todos

A todo is written back as a remark with both semicolons, from which the same fields are read.

## Main definitions

* `Backlog.Todo.written` — the remark of a todo in its full form.
-/

namespace Backlog.Todo

/-- The fields of a todo as a remark in its full form. -/
def written (todo : Todo) : Text :=
  "// TODO: ".toList ++ todo.user ++ "; ".toList ++ todo.date ++ "; ".toList ++ todo.comment

end Backlog.Todo
